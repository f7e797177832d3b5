import GeometrySource.Proofs.Declaration.Balance
import GeometrySource.Proofs.Template.Nesting
import GeometrySource.Proofs.Template.Ordinary

/-!
# Templates are balanced

The script of every template is balanced, in any context that the template does not refuse, the loops and tests that are
written with braces and tabs by hand included.
-/

namespace GeometrySource.Template

open Declaration Script Text

variable (ctx : Context)

/-! ## Circles, spheres, ellipses and rectangles -/

/-- A circle or a sphere is balanced. -/
theorem balanced_round (figure : Round.Figure) : (Round.script figure ctx).Balanced := by
  have hmeasures : Balanced (figure.measures.flatMap fun m =>
      property ctx.real.keyword m.name m.doc (Declaration.cast ctx.real.keyword ("(" ++ m.formula ++ ")"))) :=
    balanced_flatMap fun _ _ => balanced_property _ _ _ _
  have hfields : (fieldConstructor ctx (Round.storedFields ctx) ["0 <= radius"]).Balanced :=
    balanced_fieldConstructor ctx fun f hf => (Round.plain_storedFields f hf).name
  have hproperties : (Round.properties ctx figure.measures).Balanced := balanced_region _ (by simp [hmeasures])
  have hconstructors : (Round.constructors ctx).Balanced := balanced_region _ (by simp [hfields])
  have hcontains : (Round.contains ctx).Balanced := balanced_region _ (balanced_function _ _ _ _ (by simp))
  have hintersects : (Round.intersects ctx).Balanced := balanced_region _ (balanced_function _ _ _ _ (by simp +decide))
  refine balanced_outline ctx _ ?_ ?_
  · simp [Round.constants, Round.operations, hproperties, hconstructors]
  · simp [hcontains, hintersects]

variable {axes : List Component} (haxes : sizeAxes ctx.dimension = .ok axes)

include haxes

/-- The constructors of a shape with a size are balanced. -/
theorem balanced_box_constructors {shape anchor : String} (hshape : SingleLine shape) (hanchor : SingleLine anchor)
    (anchorDoc : String) :
    (Box.constructors ctx axes (Box.storedFields ctx axes shape anchor) shape anchor anchorDoc).Balanced := by
  have hfields : ∀ requires : List String,
      (fieldConstructor ctx (Box.storedFields ctx axes shape anchor) requires).Balanced := fun requires =>
    balanced_fieldConstructor ctx fun f hf => (Box.plain_storedFields haxes hshape hanchor f hf).name
  exact balanced_region _ (by simp [hfields])

omit haxes

@[simp]
theorem balanced_box_operations (shape anchor : String) : (Box.operations ctx shape anchor).Balanced :=
  balanced_region _ (by simp)

include haxes

/-- An ellipse is balanced. -/
theorem balanced_ellipse : (Ellipse.scriptOn ctx axes).Balanced := by
  have hcircles : (Ellipse.circleConversions ctx axes).Balanced :=
    balanced_flatMap fun _ _ => balanced_conversion ctx _ _ _
  have hproperties : (Ellipse.properties ctx axes).Balanced := balanced_region _ (by simp [Box.sizeProperty])
  have hconstructors : (Box.constructors ctx axes (Ellipse.storedFields ctx axes) "ellipse" "center"
      "The center of the ellipse.").Balanced :=
    balanced_box_constructors ctx haxes (by decide) (by decide) _
  have hoffset : ∀ c axis, StartsPlain (Ellipse.offsetStatement ctx c axis) := by
    intro c axis
    unfold Ellipse.offsetStatement
    simp +decide
  have hcontains : (Ellipse.contains ctx axes).Balanced := by
    refine balanced_region _ (balanced_function _ _ _ _ (balanced_lines fun statement hmem => ?_))
    simp only [List.mem_append, List.mem_singleton, List.mem_map] at hmem
    rcases hmem with (rfl | ⟨pair, -, rfl⟩) | rfl
    · decide
    · exact hoffset pair.1 pair.2
    · exact startsPlain_returning _
  refine balanced_outline ctx _ ?_ ?_
  · simp [Ellipse.constants, hproperties, hconstructors, hcircles]
  · simp [hcontains]

/-- A rectangle is balanced. -/
theorem balanced_rectangle : (Rectangle.scriptOn ctx axes).Balanced := by
  have hproperties : (Rectangle.properties ctx axes).Balanced := balanced_region _ (by simp [Box.sizeProperty])
  have hconstructors : (Box.constructors ctx axes (Rectangle.storedFields ctx axes) "rectangle" "location"
      "The location of the rectangle's bottom left corner.").Balanced :=
    balanced_box_constructors ctx haxes (by decide) (by decide) _
  have hcontains : (Rectangle.contains ctx).Balanced := balanced_region _ (balanced_function _ _ _ _ (by simp))
  have hintersects : (Rectangle.intersects ctx).Balanced := balanced_region _ (balanced_function _ _ _ _ (by simp))
  refine balanced_outline ctx _ ?_ ?_
  · simp [Rectangle.constants, hproperties, hconstructors]
  · simp [hcontains, hintersects]

omit haxes

/-! ## Line segments, planes and rays -/

theorem balanced_line : (Line.script ctx).Balanced := by
  have hproperties : (Line.properties ctx).Balanced := balanced_region _ (by simp)
  have hfields : (fieldConstructor ctx Line.storedFields []).Balanced :=
    balanced_fieldConstructor ctx fun f hf => (Line.plain_storedFields f hf).name
  have hconstructors : (Line.constructors ctx).Balanced := balanced_region _ (by simp [hfields])
  have hlength : (lines ["return line.Length;"]).Balanced := by simp +decide
  have hdirection : (lines ["return line.Vector;"]).Balanced := by simp +decide
  have hfunctions : (Line.functions ctx).Balanced := balanced_region _ (by simp [hlength, hdirection])
  refine balanced_outline ctx _ ?_ ?_
  · simp [Line.operations, hproperties, hconstructors]
  · simp [hfunctions]

theorem balanced_plane : (Plane.script ctx).Balanced := by
  have hconstants : (Plane.constants ctx).Balanced :=
    balanced_region _ (balanced_flatMap fun _ _ => balanced_constant ctx _ _ _)
  have hproperties : (Plane.properties ctx).Balanced :=
    balanced_region _ (balanced_flatMap fun _ _ => balanced_property _ _ _ _)
  have hfields : (fieldConstructor ctx Plane.storedFields []).Balanced :=
    balanced_fieldConstructor ctx fun f hf => (Plane.plain_storedFields f hf).name
  have hconstructors : (Plane.constructors ctx).Balanced :=
    balanced_region _ (by simp [hfields, Plane.coefficientConstructor, Plane.pointConstructor])
  have hnormalize : (lines ["var magnitude = Vector.Absolute(plane.Normal);",
      returning (construct ctx.name ["plane.Normal / magnitude", "plane.D / magnitude"])]).Balanced := by
    simp +decide
  have hfunctions : (Plane.functions ctx).Balanced := balanced_region _ (by simp [hnormalize])
  refine balanced_outline ctx _ ?_ ?_
  · simp [Plane.operations, hconstants, hproperties, hconstructors]
  · simp [hfunctions]

theorem balanced_ray : (Ray.script ctx).Balanced := by
  have hfields : (fieldConstructor ctx Ray.storedFields []).Balanced :=
    balanced_fieldConstructor ctx fun f hf => (Ray.plain_storedFields f hf).name
  have hconstructors : (Ray.constructors ctx).Balanced := balanced_region _ (by simp [hfields])
  have hnull : (lines ["return null;"]).Balanced := by simp +decide
  have hpoint : (Ray.pointAt ctx).Balanced := balanced_function _ _ _ _ (by simp +decide)
  have hplane : (Ray.meetPlane ctx).Balanced := balanced_function _ _ _ _ (by simp +decide [hnull])
  have hsphere : (Ray.meetSphere ctx).Balanced := balanced_function _ _ _ _ (by simp +decide [hnull])
  have hfunctions : (Ray.functions ctx).Balanced := balanced_region _ (by simp [hpoint, hplane, hsphere])
  refine balanced_outline ctx _ ?_ ?_
  · simp [Ray.operations, hconstructors]
  · simp [hfunctions]

/-! ## Polygons -/

/-- The statements that add up the hashes of the vertices are balanced. -/
theorem balanced_hashStatements : (lines Polygon.hashStatements).Balanced := by
  have hzero : (lines ["return 0;"]).Balanced := by simp +decide
  have hsum : (lines ["hash += point.GetHashCode();"]).Balanced := by simp +decide
  simp +decide [Polygon.hashStatements, hzero, hsum]

/-- The statements that compare two polygons are balanced. -/
theorem balanced_equalStatements : (lines Polygon.equalStatements).Balanced := by
  have htrue : (lines ["return true;"]).Balanced := by simp +decide
  have hfalse : (lines ["return false;"]).Balanced := by simp +decide
  have hvertex : (lines (braced "if (left.Points[i] != right.Points[i])" ["return false;"])).Balanced :=
    balanced_lines_braced (by decide) hfalse
  simp +decide [Polygon.equalStatements, htrue, hfalse, hvertex]

/-- The statements that write and read the vertices are balanced. -/
theorem balanced_polygon_binary : (Polygon.binary ctx).Balanced := by
  have hwrite : (lines ["writer.Write(point);"]).Balanced := by simp +decide
  have hread : (lines ["points[i] = reader.Read" ++ ctx.point ++ "();"]).Balanced := by simp +decide
  exact balanced_region _ (balanced_binaryMembers ctx (by simp +decide [hwrite]) (by simp +decide [hread]))

/-- The loop that adds up the lengths of the edges is balanced. -/
theorem balanced_perimeter : (Polygon.perimeter ctx).Balanced := by
  have hkeyword : StartsPlain ctx.real.keyword := startsPlain_of_isWord ctx.real.isWord_keyword
  have hsum : (lines ["perimeter += " ++ Declaration.cast ctx.real.keyword
      "Point.Distance(polygon[i], polygon[(i + 1) % polygon.Count]);"]).Balanced := by
    simp +decide
  have hloop : (lines (braced "for (int i = 0; i < polygon.Count; ++i)" ["perimeter += " ++
      Declaration.cast ctx.real.keyword "Point.Distance(polygon[i], polygon[(i + 1) % polygon.Count]);"])).Balanced :=
    balanced_lines_braced (by decide) hsum
  exact balanced_function _ _ _ _ (by simp +decide [hkeyword, hloop])

/-- The loop over the edges with a test in it is balanced. -/
theorem balanced_polygon_contains : (Polygon.contains ctx).Balanced := by
  have hflip : (lines ["inside = !inside;"]).Balanced := by simp +decide
  have htest : StartsPlain ("if ((a.Y > point.Y) != (b.Y > point.Y) && point.X < " ++
      Declaration.cast ctx.real.keyword "(b.X - a.X) * (point.Y - a.Y) / (b.Y - a.Y) + a.X)") := by
    simp +decide
  have hbody : (lines (["var a = polygon[i];", "var b = polygon[j];"] ++ braced
      ("if ((a.Y > point.Y) != (b.Y > point.Y) && point.X < " ++
        Declaration.cast ctx.real.keyword "(b.X - a.X) * (point.Y - a.Y) / (b.Y - a.Y) + a.X)")
      ["inside = !inside;"])).Balanced := by
    have hif := balanced_lines_braced htest hflip
    simp +decide [hif]
  refine balanced_function _ _ _ _ ?_
  rw [List.append_assoc, List.singleton_append, balanced_lines_cons (by decide),
    balanced_lines_append (balanced_lines_braced (by decide) hbody)]
  simp +decide

theorem balanced_polygon : (Polygon.script ctx).Balanced := by
  have hfields : (Polygon.storedFields ctx).Balanced := balanced_region _ (by simp +decide)
  have hproperties : (Polygon.properties ctx).Balanced := balanced_region _ (by simp)
  have hcopy : (lines ["Contract.Requires(points != null);",
      "Points = " ++ Declaration.cast (ctx.point ++ "[]") "points.Clone();"]).Balanced := by
    simp +decide
  have hconstructors : (Polygon.constructors ctx).Balanced := balanced_region _ (by simp +decide [hcopy])
  have hequality : (Polygon.equality ctx).Balanced :=
    balanced_region _ (balanced_equalityMembers ctx balanced_hashStatements balanced_equalStatements (by simp +decide))
  have hfunctions : (Polygon.functions ctx).Balanced := by
    refine balanced_region _ ?_
    by_cases h : ctx.dimension = 2 <;> simp [h, balanced_perimeter, balanced_polygon_contains]
  refine balanced_outline ctx _ ?_ ?_
  · simp [hfields, hproperties, hconstructors, hequality, Polygon.operations, Polygon.conversions, Polygon.formatting]
  · simp [hfunctions, balanced_polygon_binary]

/-! ## All templates -/

/-- Every template is balanced. -/
theorem balanced_script {t : Template} {ctx : Context} {declaration : Script} (h : t.script ctx = .ok declaration) :
    declaration.Balanced := by
  cases t with
  | circle => cases h; exact balanced_round ctx _
  | sphere => cases h; exact balanced_round ctx _
  | line => cases h; exact balanced_line ctx
  | plane => cases h; exact balanced_plane ctx
  | polygon => cases h; exact balanced_polygon ctx
  | ray => cases h; exact balanced_ray ctx
  | ellipse =>
    obtain ⟨axes, haxes, rfl⟩ := exists_of_map_eq_ok h
    exact balanced_ellipse ctx haxes
  | rectangle =>
    obtain ⟨axes, haxes, rfl⟩ := exists_of_map_eq_ok h
    exact balanced_rectangle ctx haxes

end GeometrySource.Template
