import GeometrySource.Proofs.Declaration.Ordinary
import GeometrySource.Template.Basic

/-!
# Ordinary parts of templates

What a template declares besides the head of its struct and the conversions has ordinary lines only.
-/

namespace GeometrySource.Template

open Declaration Script Text

variable {ctx : Context}

/-! ## Coordinates, axes and displacements -/

/-- The name of a component is a word, and its parameter is not called like the one of a conversion. -/
theorem isWord_component {c : Component} (h : c ∈ components ctx.dimension) : IsWord c.name ∧ c.parameter ≠ "value" :=
  isWord_of_mem_componentNames (name_mem_of_mem_components h)

theorem isWord_coordinate {name : String} (h : name ∈ (components ctx.dimension).map Component.name) :
    IsWord name ∧ parameterName name ≠ "value" := by
  obtain ⟨c, hc, rfl⟩ := List.mem_map.mp h
  exact isWord_component hc

/-- A text repeated stays on one line. -/
theorem singleLine_of_mem_const {α : Type} {list : List α} {text arg : String} (h : SingleLine text)
    (harg : arg ∈ list.map fun _ => text) : SingleLine arg := by
  obtain ⟨_, -, rfl⟩ := List.mem_map.mp harg
  exact h

/-! ## Circles and spheres -/

namespace Round

/-- A measure whose name is a word. -/
structure Measure.Plain (m : Measure) : Prop where
  name : IsWord m.name
  doc : SingleLine m.doc
  formula : SingleLine m.formula

theorem plain_circle : ∀ m ∈ circle.measures, m.Plain := by
  simp only [circle, List.forall_mem_cons]
  exact ⟨⟨by decide, singleLine_of_written (.intro (by decide)), singleLine_of_written (.intro (by decide))⟩,
    ⟨by decide, singleLine_of_written (.intro (by decide)), singleLine_of_written (.intro (by decide))⟩, by simp⟩

theorem plain_sphere : ∀ m ∈ sphere.measures, m.Plain := by
  simp only [sphere, List.forall_mem_cons]
  exact ⟨⟨by decide, singleLine_of_written (.intro (by decide)), singleLine_of_written (.intro (by decide))⟩,
    ⟨by decide, singleLine_of_written (.intro (by decide)), singleLine_of_written (.intro (by decide))⟩, by simp⟩

@[simp]
theorem singleLine_radiusDoc : SingleLine (radiusDoc ctx) := by
  unfold radiusDoc
  simp (disch := (with_reducible apply Written.intro; decide)) [singleLine_of_written]

/-- The fields of a round shape are plain. -/
theorem plain_storedFields : ∀ f ∈ storedFields ctx, f.Plain := by
  intro f hf
  rcases List.mem_append.mp hf with hcoordinate | hradius
  · obtain ⟨name, hname, rfl⟩ := List.mem_map.mp hcoordinate
    obtain ⟨hword, hdistinct⟩ := isWord_coordinate hname
    refine ⟨hword, ?_, hdistinct⟩
    simp (disch := (with_reducible apply Written.intro; decide)) [singleLine_of_written, hword.singleLine]
  · rw [List.mem_singleton.mp hradius]
    exact ⟨show IsWord "Radius" by decide, singleLine_radiusDoc, show parameterName "Radius" ≠ "value" by decide⟩

theorem ordinary_constants : EachLine Ordinary (constants ctx) := by
  rw [constants, ordinary_region, ordinary_constant]
  refine ⟨by decide, ?_, by decide, ?_⟩
  · simp (disch := (with_reducible apply Written.intro; decide)) [singleLine_of_written]
  · intro arg harg
    rcases List.mem_append.mp harg with hzero | hone
    · exact singleLine_of_mem_const (by decide) hzero
    · exact List.mem_singleton.mp hone ▸ by decide

theorem ordinary_properties {measures : List Measure} (h : ∀ m ∈ measures, m.Plain) :
    EachLine Ordinary (properties ctx measures) := by
  have hcoordinates : ∀ name ∈ coordinates ctx, SingleLine name :=
    fun name hname => (isWord_coordinate hname).1.singleLine
  rw [properties, ordinary_region, eachLine_append, eachLine_flatMap]
  refine ⟨by decide, ordinary_property (ordinary_propertyHead ctx.singleLine_point (by decide)) ?_ ?_, fun m hm => ?_⟩
  · simp (disch := (with_reducible apply Written.intro; decide)) [singleLine_of_written]
  · simpa using hcoordinates
  · refine ordinary_property (ordinary_propertyHead ctx.real.singleLine_keyword (h m hm).name) (h m hm).doc ?_
    simp [(h m hm).formula, show SingleLine "(" by decide, show SingleLine ")" by decide]

theorem ordinary_constructors : EachLine Ordinary (constructors ctx) := by
  rw [constructors, ordinary_region, eachLine_append]
  refine ⟨by decide, ordinary_fieldConstructor plain_storedFields ?_, ordinary_chainedConstructor ?_ ?_⟩
  · simp only [List.forall_mem_singleton]
    decide
  · simp (disch := (with_reducible apply Written.intro; decide)) [plain_iff_of_written, singleLine_of_written]
  · intro arg harg
    rcases List.mem_append.mp harg with hcoordinate | hradius
    · obtain ⟨name, hname, rfl⟩ := List.mem_map.mp hcoordinate
      simp [(isWord_coordinate hname).1.singleLine, show SingleLine "center." by decide]
    · exact List.mem_singleton.mp hradius ▸ by decide

theorem ordinary_operations : EachLine Ordinary (operations ctx) := by
  rw [operations, ordinary_region]
  refine ⟨by decide, ordinary_displacements fun symbol hsymbol => ?_⟩
  simp (disch := (with_reducible apply Written.intro; decide)) [singleLine_of_written, hsymbol]

theorem ordinary_contains : EachLine Ordinary (contains ctx) := by
  rw [contains, ordinary_region]
  refine ⟨by decide, ordinary_function ?_ (by decide) (by decide) ?_ ?_⟩
  · simp (disch := (with_reducible apply Written.intro; decide)) [singleLine_of_written]
  · simp (disch := (with_reducible apply Written.intro; decide)) [plain_iff_of_written]
  · simp (disch := (with_reducible apply Written.intro; decide)) [singleLine_of_written]

theorem ordinary_intersects : EachLine Ordinary (intersects ctx) := by
  rw [intersects, ordinary_region]
  refine ⟨by decide, ordinary_function ?_ (by decide) (by decide) ?_ ?_⟩
  · simp (disch := (with_reducible apply Written.intro; decide)) [singleLine_of_written]
  · simp (disch := (with_reducible apply Written.intro; decide)) [plain_iff_of_written]
  · simp (disch := (with_reducible apply Written.intro; decide)) [ordinary_of_written]

end Round

/-! ## Ellipses and rectangles -/

/-- The axes of a size are words whose parameters are not called like the one of a conversion. -/
theorem isWord_axis {axes : List Component} (haxes : sizeAxes ctx.dimension = .ok axes) {axis : Component}
    (h : axis ∈ axes) : IsWord axis.name ∧ axis.parameter ≠ "value" :=
  isWord_of_mem_componentNames (name_mem_of_mem_sizeAxes haxes h)

namespace Box

variable {axes : List Component} (haxes : sizeAxes ctx.dimension = .ok axes)

include haxes

/-- The fields of a shape with a size are plain. -/
theorem plain_storedFields {shape anchor : String} (hshape : SingleLine shape) (hanchor : SingleLine anchor) :
    ∀ f ∈ storedFields ctx axes shape anchor, f.Plain := by
  intro f hf
  rcases List.mem_append.mp hf with hcoordinate | haxis
  · obtain ⟨name, hname, rfl⟩ := List.mem_map.mp hcoordinate
    obtain ⟨hword, hdistinct⟩ := isWord_coordinate hname
    refine ⟨hword, ?_, hdistinct⟩
    simp (disch := (with_reducible apply Written.intro; decide)) [singleLine_of_written, hword.singleLine, hshape,
      hanchor]
  · obtain ⟨axis, hmem, rfl⟩ := List.mem_map.mp haxis
    obtain ⟨hword, hdistinct⟩ := isWord_axis haxes hmem
    have hparameter : SingleLine axis.parameter := (isWord_parameterName hword).singleLine
    refine ⟨hword, ?_, hdistinct⟩
    simp (disch := (with_reducible apply Written.intro; decide)) [singleLine_of_written, hparameter, hshape]

theorem ordinary_sizeProperty {shape : String} (hshape : SingleLine shape) :
    EachLine Ordinary (sizeProperty ctx axes shape) := by
  refine ordinary_property (ordinary_propertyHead ctx.singleLine_size (by decide)) ?_ ?_
  · simp (disch := (with_reducible apply Written.intro; decide)) [singleLine_of_written, hshape]
  · rw [singleLine_construct]
    refine ⟨ctx.singleLine_size, fun arg harg => ?_⟩
    obtain ⟨axis, hmem, rfl⟩ := List.mem_map.mp harg
    exact (isWord_axis haxes hmem).1.singleLine

theorem ordinary_constructors {shape anchor anchorDoc : String} (hshape : SingleLine shape) (hanchor : IsWord anchor)
    (hdistinct : anchor ≠ "value") (hdoc : SingleLine anchorDoc) :
    EachLine Ordinary (constructors ctx axes (storedFields ctx axes shape anchor) shape anchor anchorDoc) := by
  rw [constructors, ordinary_region, eachLine_append]
  refine ⟨by decide, ordinary_fieldConstructor (plain_storedFields haxes hshape hanchor.singleLine) ?_,
    ordinary_chainedConstructor ?_ ?_⟩
  · intro condition hmem
    obtain ⟨axis, haxis, rfl⟩ := List.mem_map.mp hmem
    simp [(isWord_parameterName (isWord_axis haxes haxis).1).singleLine, Component.parameter,
      show SingleLine "0 <= " by decide]
  · simp only [List.forall_mem_cons]
    refine ⟨⟨⟨ctx.singleLine_point, hanchor, hdistinct⟩, hdoc⟩, ⟨?_, ?_⟩, by simp⟩
    · exact (plain_iff_of_written (.intro (by decide))).mpr ctx.singleLine_size
    · simp (disch := (with_reducible apply Written.intro; decide)) [singleLine_of_written, hshape]
  · intro arg harg
    rcases List.mem_append.mp harg with hcoordinate | hextent
    · obtain ⟨name, hname, rfl⟩ := List.mem_map.mp hcoordinate
      simp [(isWord_coordinate hname).1.singleLine, hanchor.singleLine, show SingleLine "." by decide]
    · obtain ⟨axis, hmem, rfl⟩ := List.mem_map.mp hextent
      simp [(isWord_axis haxes hmem).1.singleLine, show SingleLine "size." by decide]

omit haxes

theorem ordinary_operations {shape anchor : String} (hshape : SingleLine shape) (hanchor : SingleLine anchor) :
    EachLine Ordinary (operations ctx shape anchor) := by
  rw [operations, ordinary_region]
  refine ⟨by decide, ordinary_displacements fun symbol hsymbol => ?_⟩
  simp (disch := (with_reducible apply Written.intro; decide)) [singleLine_of_written, hsymbol, hshape, hanchor]

end Box

namespace Ellipse

variable {axes : List Component} (haxes : sizeAxes ctx.dimension = .ok axes)

theorem ordinary_constants : EachLine Ordinary (constants ctx axes) := by
  rw [constants, ordinary_region, ordinary_constant]
  refine ⟨by decide, ?_, by decide, ?_⟩
  · simp (disch := (with_reducible apply Written.intro; decide)) [singleLine_of_written]
  · intro arg harg
    exact (List.mem_append.mp harg).elim (singleLine_of_mem_const (by decide)) (singleLine_of_mem_const (by decide))

/-- The statement that computes a relative distance is an ordinary line. -/
theorem ordinary_offsetStatement {c axis : Component} (hc : SingleLine c.name) (hp : SingleLine c.parameter)
    (haxis : SingleLine axis.name) : Ordinary (offsetStatement ctx c axis) := by
  unfold offsetStatement offsetName
  simp (disch := (with_reducible apply Written.intro; decide)) [String.append_assoc, ordinary_append_iff,
    singleLine_of_written, hc, hp, haxis, Context.real]

include haxes

theorem ordinary_properties : EachLine Ordinary (properties ctx axes) := by
  rw [properties, ordinary_region, eachLine_append]
  refine ⟨by decide, ordinary_property (ordinary_propertyHead ctx.singleLine_point (by decide)) ?_ ?_,
    Box.ordinary_sizeProperty haxes (by decide)⟩
  · exact singleLine_of_written (.intro (by decide))
  · rw [singleLine_construct]
    exact ⟨ctx.singleLine_point, fun name hname => (isWord_coordinate hname).1.singleLine⟩

theorem ordinary_contains : EachLine Ordinary (contains ctx axes) := by
  have hpairs : ∀ c axis, (c, axis) ∈ (components ctx.dimension).zip axes →
      SingleLine c.name ∧ SingleLine c.parameter ∧ SingleLine axis.name := by
    intro c axis hmem
    obtain ⟨hc, haxis⟩ := List.of_mem_zip hmem
    have hword := (isWord_component hc).1
    exact ⟨hword.singleLine, (isWord_parameterName hword).singleLine, (isWord_axis haxes haxis).1.singleLine⟩
  rw [contains, ordinary_region]
  refine ⟨by decide, ordinary_function (singleLine_of_written (.intro (by decide))) (by decide) (by decide) ?_ ?_⟩
  · simp (disch := (with_reducible apply Written.intro; decide)) [plain_iff_of_written]
  · intro statement hmem
    simp only [List.mem_append, List.mem_singleton, List.mem_map] at hmem
    rcases hmem with (rfl | ⟨⟨c, axis⟩, hpair, rfl⟩) | rfl
    · exact ordinary_of_written (.intro (by decide))
    · obtain ⟨hc, hp, haxis⟩ := hpairs c axis hpair
      exact ordinary_offsetStatement hc hp haxis
    · rw [ordinary_returning, singleLine_append, singleLine_intercalate (.intro (by decide))]
      refine ⟨fun text htext => ?_, by decide⟩
      obtain ⟨⟨c, axis⟩, hpair, rfl⟩ := List.mem_map.mp htext
      unfold offsetName
      simp [(hpairs c axis hpair).2.1, show SingleLine "d" by decide, show SingleLine " * " by decide]

end Ellipse

namespace Rectangle

variable {axes : List Component} (haxes : sizeAxes ctx.dimension = .ok axes)

theorem ordinary_constants : EachLine Ordinary (constants ctx axes) := by
  rw [constants, ordinary_region, ordinary_constant]
  refine ⟨by decide, ?_, by decide, fun arg harg => singleLine_of_mem_const (by decide) harg⟩
  simp (disch := (with_reducible apply Written.intro; decide)) [singleLine_of_written]

include haxes

theorem ordinary_properties : EachLine Ordinary (properties ctx axes) := by
  have hedge : ∀ name doc expression : String, IsWord name → SingleLine doc → SingleLine expression →
      EachLine Ordinary (property ctx.scalar name doc expression) := fun name doc expression hname hdoc hexpression =>
    ordinary_property (ordinary_propertyHead ctx.singleLine_scalar hname) hdoc hexpression
  rw [properties, ordinary_region]
  simp only [eachLine_append]
  refine ⟨by decide, ⟨⟨⟨⟨⟨?_, Box.ordinary_sizeProperty haxes (by decide)⟩, ?_⟩, ?_⟩, ?_⟩, ?_⟩⟩
  · refine ordinary_property (ordinary_propertyHead ctx.singleLine_point (by decide)) ?_ ?_
    · exact singleLine_of_written (.intro (by decide))
    · rw [singleLine_construct]
      exact ⟨ctx.singleLine_point, fun name hname => (isWord_coordinate hname).1.singleLine⟩
  · exact hedge _ _ _ (by decide) (singleLine_of_written (.intro (by decide))) (by decide)
  · exact hedge _ _ _ (by decide) (singleLine_of_written (.intro (by decide))) (by decide)
  · exact hedge _ _ _ (by decide) (singleLine_of_written (.intro (by decide))) (by decide)
  · exact hedge _ _ _ (by decide) (singleLine_of_written (.intro (by decide))) (by decide)

omit haxes

theorem ordinary_contains : EachLine Ordinary (contains ctx) := by
  rw [contains, ordinary_region]
  refine ⟨by decide, ordinary_function (singleLine_of_written (.intro (by decide))) (by decide) (by decide) ?_ ?_⟩
  · simp (disch := (with_reducible apply Written.intro; decide)) [plain_iff_of_written]
  · simp (disch := (with_reducible apply Written.intro; decide)) [singleLine_of_written, -String.reduceAppend]

theorem ordinary_intersects : EachLine Ordinary (intersects ctx) := by
  rw [intersects, ordinary_region]
  refine ⟨by decide, ordinary_function (singleLine_of_written (.intro (by decide))) (by decide) (by decide) ?_ ?_⟩
  · simp (disch := (with_reducible apply Written.intro; decide)) [plain_iff_of_written]
  · simp (disch := (with_reducible apply Written.intro; decide)) [singleLine_of_written, -String.reduceAppend]

end Rectangle

/-! ## Line segments, planes and rays -/

namespace Line

theorem plain_storedFields : ∀ f ∈ storedFields, f.Plain := by
  simp only [storedFields, List.forall_mem_cons]
  exact ⟨⟨by decide, singleLine_of_written (.intro (by decide)), by decide⟩,
    ⟨by decide, singleLine_of_written (.intro (by decide)), by decide⟩, by simp⟩

theorem ordinary_properties : EachLine Ordinary (properties ctx) := by
  rw [properties, ordinary_region, eachLine_append]
  refine ⟨by decide, ordinary_property (ordinary_propertyHead ctx.singleLine_vector (by decide)) ?_ (by decide),
    ordinary_property (ordinary_propertyHead ctx.real.singleLine_keyword (by decide)) (by decide) ?_⟩
  · exact singleLine_of_written (.intro (by decide))
  · rw [singleLine_cast]
    exact ⟨ctx.real.singleLine_keyword, by decide⟩

/-- The parameters for the coordinates of the ends are plain. -/
theorem plain_coordinateParameters {endName : String} (h : endName ∈ ends) :
    ∀ p ∈ coordinateParameters ctx endName, p.toParameter.Plain ∧ SingleLine p.doc := by
  have hall : ∀ endName ∈ ends, ∀ name ∈ componentNames, IsWord (endName ++ name) ∧ endName ++ name ≠ "value" := by
    decide
  have hend : SingleLine endName := by
    have hends : ∀ endName ∈ ends, SingleLine endName := by decide
    exact hends endName h
  intro p hp
  obtain ⟨c, hc, rfl⟩ := List.mem_map.mp hp
  obtain ⟨hword, hdistinct⟩ := hall endName h c.name (name_mem_of_mem_components hc)
  refine ⟨⟨ctx.singleLine_scalar, hword, hdistinct⟩, ?_⟩
  simp (disch := (with_reducible apply Written.intro; decide)) [singleLine_of_written,
    (isWord_component hc).1.singleLine, hend]

theorem ordinary_constructors : EachLine Ordinary (constructors ctx) := by
  rw [constructors, ordinary_region, eachLine_append]
  refine ⟨by decide, ordinary_fieldConstructor plain_storedFields (by simp), ordinary_chainedConstructor ?_ ?_⟩
  · intro p hp
    obtain ⟨endName, hend, hmem⟩ := List.mem_flatMap.mp hp
    exact plain_coordinateParameters hend p hmem
  · intro arg harg
    obtain ⟨endName, hend, rfl⟩ := List.mem_map.mp harg
    rw [singleLine_construct]
    refine ⟨ctx.singleLine_point, fun name hname => ?_⟩
    obtain ⟨p, hp, rfl⟩ := List.mem_map.mp hname
    exact (plain_coordinateParameters hend p hp).1.name.singleLine

theorem ordinary_operations : EachLine Ordinary (operations ctx) := by
  rw [operations, ordinary_region]
  refine ⟨by decide, ordinary_displacements fun symbol hsymbol => ?_⟩
  simp (disch := (with_reducible apply Written.intro; decide)) [singleLine_of_written, hsymbol]

theorem ordinary_functions : EachLine Ordinary (functions ctx) := by
  have hline : ∀ p ∈ [(⟨ctx.name, "line"⟩ : Parameter)], p.Plain := by
    simp (disch := (with_reducible apply Written.intro; decide)) [plain_iff_of_written]
  rw [functions, ordinary_region]
  simp only [eachLine_append]
  refine ⟨by decide, ⟨ordinary_function ?_ ctx.singleLine_name (by decide) hline ?_,
    ordinary_function ?_ ctx.real.singleLine_keyword (by decide) hline ?_⟩,
    ordinary_function ?_ ctx.singleLine_vector (by decide) hline ?_⟩
  · exact singleLine_of_written (.intro (by decide))
  · simp (disch := (with_reducible apply Written.intro; decide)) [singleLine_of_written]
  · exact singleLine_of_written (.intro (by decide))
  · simp (disch := (with_reducible apply Written.intro; decide)) [ordinary_of_written]
  · exact singleLine_of_written (.intro (by decide))
  · simp (disch := (with_reducible apply Written.intro; decide)) [ordinary_of_written]

end Line

namespace Ray

theorem plain_storedFields : ∀ f ∈ storedFields, f.Plain := by
  simp only [storedFields, List.forall_mem_cons]
  exact ⟨⟨by decide, singleLine_of_written (.intro (by decide)), by decide⟩,
    ⟨by decide, singleLine_of_written (.intro (by decide)), by decide⟩, by simp⟩

theorem ordinary_constructors : EachLine Ordinary (constructors ctx) := by
  rw [constructors, ordinary_region, eachLine_append]
  refine ⟨by decide, ordinary_fieldConstructor plain_storedFields (by simp), ordinary_chainedConstructor ?_ ?_⟩
  · simp (disch := (with_reducible apply Written.intro; decide)) [plain_iff_of_written, singleLine_of_written]
  · simp (disch := (with_reducible apply Written.intro; decide)) [singleLine_of_written]

theorem ordinary_operations : EachLine Ordinary (operations ctx) := by
  rw [operations, ordinary_region]
  refine ⟨by decide, ordinary_displacements fun symbol hsymbol => ?_⟩
  simp (disch := (with_reducible apply Written.intro; decide)) [singleLine_of_written, hsymbol]

theorem singleLine_distanceOrNull : SingleLine (distanceOrNull ctx) := by
  unfold distanceOrNull
  simp (disch := (with_reducible apply Written.intro; decide)) [singleLine_of_written]

theorem ordinary_pointAt : EachLine Ordinary (pointAt ctx) := by
  refine ordinary_function (by decide) ctx.singleLine_point (by decide) ?_ ?_
  · simp (disch := (with_reducible apply Written.intro; decide)) [plain_iff_of_written]
  · simp (disch := (with_reducible apply Written.intro; decide)) [ordinary_of_written]

theorem ordinary_meetPlane : EachLine Ordinary (meetPlane ctx) := by
  refine ordinary_function (singleLine_of_written (.intro (by decide))) singleLine_distanceOrNull (by decide) ?_ ?_
  · simp (disch := (with_reducible apply Written.intro; decide)) [plain_iff_of_written]
  · simp (disch := (with_reducible apply Written.intro; decide)) [or_imp, forall_and, ordinary_of_written]

theorem ordinary_meetSphere : EachLine Ordinary (meetSphere ctx) := by
  have hroot : Ordinary ("var distance = -b - " ++ Declaration.cast ctx.scalar "Math.Sqrt(discriminant);") := by
    simp (disch := (with_reducible apply Written.intro; decide)) [ordinary_append_iff, singleLine_of_written]
  refine ordinary_function (singleLine_of_written (.intro (by decide))) singleLine_distanceOrNull (by decide) ?_ ?_
  · simp (disch := (with_reducible apply Written.intro; decide)) [plain_iff_of_written]
  · simp (disch := (with_reducible apply Written.intro; decide)) [or_imp, forall_and, ordinary_of_written, hroot]

theorem ordinary_functions : EachLine Ordinary (functions ctx) := by
  rw [functions, ordinary_region]
  simp only [eachLine_append]
  exact ⟨by decide, ⟨ordinary_pointAt, ordinary_meetPlane⟩, ordinary_meetSphere⟩

end Ray

namespace Plane

theorem singleLine_distanceDoc : SingleLine distanceDoc := by
  unfold distanceDoc
  exact singleLine_of_written (.intro (by decide))

theorem plain_storedFields : ∀ f ∈ storedFields, f.Plain := by
  simp only [storedFields, List.forall_mem_cons]
  exact ⟨⟨by decide, singleLine_of_written (.intro (by decide)), by decide⟩,
    ⟨by decide, singleLine_distanceDoc, by decide⟩, by simp⟩

/-- The coefficients and their components are words, and no parameter is called like the one of a conversion. -/
theorem isWord_coefficient {coefficient : String} {c : Component} (h : (coefficient, c) ∈ coefficients ctx) :
    IsWord coefficient ∧ IsWord (parameterName coefficient) ∧ parameterName coefficient ≠ "value" ∧ IsWord c.name := by
  have hall : ∀ coefficient ∈ coefficientNames,
      IsWord coefficient ∧ IsWord (parameterName coefficient) ∧ parameterName coefficient ≠ "value" := by decide
  obtain ⟨hcoefficient, hc⟩ := List.of_mem_zip h
  obtain ⟨hword, hparameter, hdistinct⟩ := hall coefficient hcoefficient
  exact ⟨hword, hparameter, hdistinct, (isWord_component hc).1⟩

theorem ordinary_constants : EachLine Ordinary (constants ctx) := by
  have hplanes : ∀ p ∈ namedPlanes, SingleLine p.1 := by decide
  rw [constants, ordinary_region, eachLine_flatMap]
  refine ⟨by decide, ?_⟩
  rintro ⟨plane, axis⟩ hmem
  have hplane : SingleLine plane := hplanes _ hmem
  refine ordinary_constant.mpr ⟨?_, hplane, ?_⟩
  · simp (disch := (with_reducible apply Written.intro; decide)) [singleLine_of_written, hplane]
  · simp (disch := (with_reducible apply Written.intro; decide)) [singleLine_of_written]

theorem ordinary_properties : EachLine Ordinary (properties ctx) := by
  rw [properties, ordinary_region, eachLine_flatMap]
  refine ⟨by decide, ?_⟩
  rintro ⟨coefficient, c⟩ hmem
  obtain ⟨hword, -, -, hc⟩ := isWord_coefficient hmem
  refine ordinary_property (ordinary_propertyHead ctx.singleLine_scalar hword) ?_ ?_
  · simp (disch := (with_reducible apply Written.intro; decide)) [singleLine_of_written, hc.singleLine]
  · simp (disch := (with_reducible apply Written.intro; decide)) [singleLine_of_written, hc.singleLine]

theorem ordinary_coefficientConstructor : EachLine Ordinary (coefficientConstructor ctx) := by
  refine ordinary_chainedConstructor ?_ ?_
  · intro p hp
    rcases List.mem_append.mp hp with hcoefficient | hdistance
    · obtain ⟨⟨coefficient, c⟩, hmem, rfl⟩ := List.mem_map.mp hcoefficient
      obtain ⟨-, hparameter, hdistinct, hc⟩ := isWord_coefficient hmem
      refine ⟨⟨ctx.singleLine_scalar, hparameter, hdistinct⟩, ?_⟩
      simp (disch := (with_reducible apply Written.intro; decide)) [singleLine_of_written, hc.singleLine]
    · rw [List.mem_singleton.mp hdistance]
      exact ⟨(plain_iff_of_written (.intro (by decide))).mpr ctx.singleLine_scalar, singleLine_distanceDoc⟩
  · have hnames : ∀ name ∈ coefficientNames.map parameterName, SingleLine name := by decide
    simpa (disch := (with_reducible apply Written.intro; decide)) [singleLine_of_written] using hnames

theorem ordinary_pointConstructor : EachLine Ordinary (pointConstructor ctx) := by
  refine ordinary_chainedConstructor ?_ ?_
  · simp (disch := (with_reducible apply Written.intro; decide)) [plain_iff_of_written, singleLine_of_written]
  · have hcoordinates : ∀ arg ∈ (components ctx.dimension).map fun c => "point." ++ c.name, SingleLine arg := by
      intro arg harg
      obtain ⟨c, hc, rfl⟩ := List.mem_map.mp harg
      simp [(isWord_component hc).1.singleLine, show SingleLine "point." by decide]
    simpa (disch := (with_reducible apply Written.intro; decide)) [singleLine_of_written] using hcoordinates

theorem ordinary_constructors : EachLine Ordinary (constructors ctx) := by
  rw [constructors, ordinary_region]
  simp only [eachLine_append]
  exact ⟨by decide, ⟨ordinary_fieldConstructor plain_storedFields (by simp), ordinary_coefficientConstructor⟩,
    ordinary_pointConstructor⟩

theorem ordinary_operations : EachLine Ordinary (operations ctx) := by
  rw [operations, ordinary_region]
  refine ⟨by decide, ordinary_operator ?_ ctx.singleLine_name (by decide) ?_ ?_⟩
  · exact singleLine_of_written (.intro (by decide))
  · simp (disch := (with_reducible apply Written.intro; decide)) [plain_iff_of_written]
  · simp (disch := (with_reducible apply Written.intro; decide)) [singleLine_of_written]

theorem singleLine_weighted {operand : String} (h : SingleLine operand) : SingleLine (weighted ctx operand) := by
  unfold weighted
  rw [singleLine_intercalate (.intro (by decide))]
  intro text htext
  obtain ⟨⟨coefficient, c⟩, hmem, rfl⟩ := List.mem_map.mp htext
  obtain ⟨hword, -, -, hc⟩ := isWord_coefficient hmem
  simp (disch := (with_reducible apply Written.intro; decide)) [singleLine_of_written, hword.singleLine, hc.singleLine,
    h]

theorem ordinary_functions : EachLine Ordinary (functions ctx) := by
  have hpoint : SingleLine (weighted ctx "point") := singleLine_weighted (by decide)
  have hvector : SingleLine (weighted ctx "vector") := singleLine_weighted (by decide)
  rw [functions, ordinary_region]
  simp only [eachLine_append]
  refine ⟨by decide, ⟨⟨ordinary_function ?_ ctx.singleLine_name (by decide) ?_ ?_,
    ordinary_function ?_ ctx.singleLine_scalar (by decide) ?_ ?_⟩,
    ordinary_function ?_ ctx.singleLine_scalar (by decide) ?_ ?_⟩,
    ordinary_function ?_ ctx.positive.singleLine_keyword (by decide) ?_ ?_⟩
  · exact singleLine_of_written (.intro (by decide))
  · simp (disch := (with_reducible apply Written.intro; decide)) [plain_iff_of_written]
  · simp (disch := (with_reducible apply Written.intro; decide)) [ordinary_of_written, singleLine_of_written]
  · rw [singleLine_append]
    exact ⟨singleLine_of_written (.intro (by decide)), by decide⟩
  · simp (disch := (with_reducible apply Written.intro; decide)) [plain_iff_of_written]
  · simp (disch := (with_reducible apply Written.intro; decide)) [singleLine_of_written, hpoint]
  · exact singleLine_of_written (.intro (by decide))
  · simp (disch := (with_reducible apply Written.intro; decide)) [plain_iff_of_written]
  · simpa using hvector
  · exact singleLine_of_written (.intro (by decide))
  · simp (disch := (with_reducible apply Written.intro; decide)) [plain_iff_of_written]
  · simp (disch := (with_reducible apply Written.intro; decide)) [singleLine_of_written]

end Plane

/-! ## Polygons -/

namespace Polygon

theorem ordinary_storedFields : EachLine Ordinary (storedFields ctx) := by
  simp (disch := (with_reducible apply Written.intro; decide)) [storedFields, String.append_assoc, ordinary_append_iff,
    singleLine_of_written]

theorem ordinary_properties : EachLine Ordinary (properties ctx) := by
  have hindexer : Ordinary ("public " ++ ctx.point ++ " " ++ "this[int index]") := by
    have hhead : ("public " ++ ctx.point ++ " " ++ "this[int index]").toList.head? = some 'p' := by simp
    have hlast : ("public " ++ ctx.point ++ " " ++ "this[int index]").toList.getLast? = some ']' := by
      have hbracket : "this[int index]".toList.getLast? = some ']' := by decide
      rw [String.toList_append, List.getLast?_append, hbracket, Option.some_or]
    refine ⟨?_, unmarked_of_head hhead (by decide), fun hlike => unlike_of_last hlast (by decide) hlike.2⟩
    simp (disch := (with_reducible apply Written.intro; decide)) [singleLine_of_written]
  rw [properties, ordinary_region, eachLine_append]
  refine ⟨by decide, ordinary_property (ordinary_propertyHead (by decide) (by decide)) ?_ (by decide),
    ordinary_property hindexer ?_ (by decide)⟩
  · exact singleLine_of_written (.intro (by decide))
  · exact singleLine_of_written (.intro (by decide))

theorem ordinary_constructors : EachLine Ordinary (constructors ctx) := by
  have hhead : Ordinary ("public " ++ ctx.name ++ "(params " ++ ctx.point ++ "[] points)") := by
    have hgroup : "public " ++ ctx.name ++ "(params " ++ ctx.point ++ "[] points)" =
        "public " ++ ctx.name ++ "(params " ++ ctx.point ++ "[]" ++ " " ++ "points" ++ ")" := by
      simp [String.append_assoc]
    rw [hgroup]
    refine ordinary_lastParameter ?_ (by decide) (by decide)
    simp (disch := (with_reducible apply Written.intro; decide)) [singleLine_of_written]
  simp (disch := (with_reducible apply Written.intro; decide)) [constructors, hhead, ordinary_append_iff,
    ordinary_of_written, singleLine_of_written]

theorem ordinary_operations : EachLine Ordinary (operations ctx) := by
  rw [operations, ordinary_region]
  refine ⟨by decide, ordinary_displacements fun symbol hsymbol => ?_⟩
  simp (disch := (with_reducible apply Written.intro; decide)) [singleLine_of_written, hsymbol]

theorem ordinary_equality : EachLine Ordinary (equality ctx) := by
  rw [equality, ordinary_region]
  refine ⟨by decide, ordinary_equalityMembers ?_ ?_ ?_⟩
  · simp (disch := (with_reducible apply Written.intro; decide)) [hashStatements, or_imp, forall_and,
      ordinary_of_written]
  · simp (disch := (with_reducible apply Written.intro; decide)) [equalStatements, or_imp, forall_and,
      ordinary_of_written]
  · simp (disch := (with_reducible apply Written.intro; decide)) [ordinary_of_written]

theorem ordinary_formatting : EachLine Ordinary (formatting ctx) := by
  rw [formatting, ordinary_region]
  refine ⟨by decide, ordinary_toStringMembers ?_⟩
  rw [singleLine_append]
  exact ⟨singleLine_of_written (.intro (by decide)), singleLine_of_written (.intro (by decide))⟩

theorem ordinary_binary (hwriter : SingleLine ctx.binaryWriter) (hreader : SingleLine ctx.binaryReader) :
    EachLine Ordinary (binary ctx) := by
  rw [binary, ordinary_region]
  refine ⟨by decide, ordinary_binaryMembers hwriter hreader ?_ ?_⟩
  · simp (disch := (with_reducible apply Written.intro; decide)) [or_imp, forall_and, ordinary_of_written]
  · simp (disch := (with_reducible apply Written.intro; decide)) [or_imp, forall_and, ordinary_of_written,
      ordinary_append_iff, singleLine_of_written, String.append_assoc]

theorem ordinary_perimeter : EachLine Ordinary (perimeter ctx) := by
  refine ordinary_function (singleLine_of_written (.intro (by decide))) ctx.real.singleLine_keyword (by decide) ?_ ?_
  · simp (disch := (with_reducible apply Written.intro; decide)) [plain_iff_of_written]
  · simp (disch := (with_reducible apply Written.intro; decide)) [or_imp, forall_and, ordinary_of_written,
      ordinary_append_iff, ordinary_append_iff_of_end, singleLine_of_written]

theorem ordinary_contains : EachLine Ordinary (contains ctx) := by
  refine ordinary_function (singleLine_of_written (.intro (by decide))) (by decide) (by decide) ?_ ?_
  · simp (disch := (with_reducible apply Written.intro; decide)) [plain_iff_of_written]
  · simp (disch := (with_reducible apply Written.intro; decide)) [or_imp, forall_and, ordinary_of_written,
      ordinary_append_iff, singleLine_of_written]

theorem ordinary_functions : EachLine Ordinary (functions ctx) := by
  rw [functions, ordinary_region, eachLine_append]
  refine ⟨by decide, ordinary_perimeter, ?_⟩
  split
  · exact ordinary_contains
  · exact eachLine_nil

end Polygon

end GeometrySource.Template
