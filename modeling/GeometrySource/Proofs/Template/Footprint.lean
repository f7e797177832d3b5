import GeometrySource.Proofs.Declaration.Footprint
import GeometrySource.Template.Basic

/-!
# What templates read

Every template is given the whole request and the whole configuration, and reads no more of them than agreeing contexts
share. So in contexts that agree it makes one declaration, or refuses for one reason. How the spec was written, the
namespace and the number types of other shapes make no difference.
-/

namespace GeometrySource.Template

open Declaration Script

variable {a b : Context}

/-! ## Shapes with a size -/

namespace Box

theorem coordinates_congr (h : a.SameType b) : coordinates a = coordinates b := by
  rw [coordinates, coordinates, h.dimension]

theorem storedFields_congr (h : a.SameType b) (axes : List Component) (shape anchor : String) :
    storedFields a axes shape anchor = storedFields b axes shape anchor := by
  rw [storedFields, storedFields, coordinates_congr h]

theorem sizeProperty_congr (h : a.SameType b) (axes : List Component) (shape : String) :
    sizeProperty a axes shape = sizeProperty b axes shape := by
  rw [sizeProperty, sizeProperty, h.size]

theorem constructors_congr (h : a.SameType b) (axes : List Component) (list : List Field)
    (shape anchor anchorDoc : String) :
    constructors a axes list shape anchor anchorDoc = constructors b axes list shape anchor anchorDoc := by
  simp only [constructors, fieldConstructor_congr h, chainedConstructor_congr h, h.point, h.size, coordinates_congr h]

theorem operations_congr (h : a.SameType b) (shape anchor : String) :
    operations a shape anchor = operations b shape anchor := by
  simp only [operations, displacements_congr h, h.name]

end Box

/-- The ellipse reads, beyond its own type, for which number types it and with it the circle are generated. -/
theorem Ellipse.scriptOn_congr (h : a.Agree b) (axes : List Component) :
    Ellipse.scriptOn a axes = Ellipse.scriptOn b axes := by
  have hs := h.toSameType
  have hlist : Ellipse.storedFields a axes = Ellipse.storedFields b axes := Box.storedFields_congr hs axes _ _
  have hconstants : Ellipse.constants a axes = Ellipse.constants b axes := by
    simp only [Ellipse.constants, constant_congr hs, hs.name, Box.coordinates_congr hs]
  have hproperties : Ellipse.properties a axes = Ellipse.properties b axes := by
    simp only [Ellipse.properties, hs.point, Box.coordinates_congr hs, Box.sizeProperty_congr hs]
  have hcircles : Ellipse.circleConversions a axes = Ellipse.circleConversions b axes := by
    simp only [Ellipse.circleConversions, h.types, conversion_congr hs, hs.shapeName, hs.scalar, Box.coordinates_congr hs]
  have hcontains : Ellipse.contains a axes = Ellipse.contains b axes := by
    simp only [Ellipse.contains, Ellipse.offsetStatement, hs.dimension, hs.real, hs.name, hs.point]
  rw [Ellipse.scriptOn, Ellipse.scriptOn, hconstants, hlist, fields_congr hs, hproperties, Box.constructors_congr hs,
    Box.operations_congr hs, hcircles, derivedMembers_congr h, derivedFunctions_congr h, hcontains, outline_congr hs]

theorem Rectangle.scriptOn_congr (h : a.Agree b) (axes : List Component) :
    Rectangle.scriptOn a axes = Rectangle.scriptOn b axes := by
  have hs := h.toSameType
  have hlist : Rectangle.storedFields a axes = Rectangle.storedFields b axes := Box.storedFields_congr hs axes _ _
  have hconstants : Rectangle.constants a axes = Rectangle.constants b axes := by
    simp only [Rectangle.constants, constant_congr hs, hs.name, hlist]
  have hproperties : Rectangle.properties a axes = Rectangle.properties b axes := by
    simp only [Rectangle.properties, hs.point, hs.scalar, Box.coordinates_congr hs, Box.sizeProperty_congr hs]
  have hcontains : Rectangle.contains a = Rectangle.contains b := by
    rw [Rectangle.contains, Rectangle.contains, hs.name, hs.point]
  have hintersects : Rectangle.intersects a = Rectangle.intersects b := by
    rw [Rectangle.intersects, Rectangle.intersects, hs.name]
  rw [Rectangle.scriptOn, Rectangle.scriptOn, hconstants, hlist, fields_congr hs, hproperties, Box.constructors_congr hs,
    Box.operations_congr hs, derivedMembers_congr h, derivedFunctions_congr h, hcontains, hintersects, outline_congr hs]

/-! ## The other shapes -/

theorem Line.script_congr (h : a.Agree b) : Line.script a = Line.script b := by
  have hs := h.toSameType
  have hproperties : Line.properties a = Line.properties b := by
    rw [Line.properties, Line.properties, hs.vector, hs.real]
  have hends : Line.coordinateParameters a = Line.coordinateParameters b := by
    funext endName
    rw [Line.coordinateParameters, Line.coordinateParameters, hs.dimension, hs.scalar]
  have hconstructors : Line.constructors a = Line.constructors b := by
    rw [Line.constructors, Line.constructors, fieldConstructor_congr hs, chainedConstructor_congr hs, hends, hs.point]
  have hoperations : Line.operations a = Line.operations b := by
    rw [Line.operations, Line.operations, displacements_congr hs, hs.name]
  have hfunctions : Line.functions a = Line.functions b := by
    rw [Line.functions, Line.functions, hs.name, hs.real, hs.vector]
  rw [Line.script, Line.script, fields_congr hs, hproperties, hconstructors, hoperations, derivedMembers_congr h,
    derivedFunctions_congr h, hfunctions, outline_congr hs]

theorem Plane.script_congr (h : a.Agree b) : Plane.script a = Plane.script b := by
  have hs := h.toSameType
  have hpairs : Plane.coefficients a = Plane.coefficients b := by
    rw [Plane.coefficients, Plane.coefficients, hs.dimension]
  have hconstants : Plane.constants a = Plane.constants b := by
    simp only [Plane.constants, constant_congr hs, hs.vector, hs.dimension]
  have hproperties : Plane.properties a = Plane.properties b := by
    rw [Plane.properties, Plane.properties, hpairs, hs.scalar]
  have hcoefficients : Plane.coefficientConstructor a = Plane.coefficientConstructor b := by
    simp only [Plane.coefficientConstructor, Plane.coefficientParameters, hpairs, hs.scalar, hs.vector,
      chainedConstructor_congr hs]
  have hpoint : Plane.pointConstructor a = Plane.pointConstructor b := by
    simp only [Plane.pointConstructor, hs.point, hs.vector, hs.dimension, chainedConstructor_congr hs]
  have hconstructors : Plane.constructors a = Plane.constructors b := by
    rw [Plane.constructors, Plane.constructors, fieldConstructor_congr hs, hcoefficients, hpoint]
  have hoperations : Plane.operations a = Plane.operations b := by
    rw [Plane.operations, Plane.operations, hs.name]
  have hfunctions : Plane.functions a = Plane.functions b := by
    simp only [Plane.functions, Plane.weighted, hpairs, hs.name, hs.point, hs.vector, hs.scalar, hs.positive]
  rw [Plane.script, Plane.script, hconstants, fields_congr hs, hproperties, hconstructors, hoperations,
    derivedMembers_congr h, derivedFunctions_congr h, hfunctions, outline_congr hs]

/-- The polygon has members of its own where the others derive theirs from fields. -/
theorem Polygon.script_congr (h : a.Agree b) : Polygon.script a = Polygon.script b := by
  have hs := h.toSameType
  have hfields : Polygon.storedFields a = Polygon.storedFields b := by
    rw [Polygon.storedFields, Polygon.storedFields, hs.point]
  have hproperties : Polygon.properties a = Polygon.properties b := by
    rw [Polygon.properties, Polygon.properties, hs.point]
  have hconstructors : Polygon.constructors a = Polygon.constructors b := by
    rw [Polygon.constructors, Polygon.constructors, constructorSummary_congr hs, hs.name, hs.point]
  have hoperations : Polygon.operations a = Polygon.operations b := by
    rw [Polygon.operations, Polygon.operations, displacements_congr hs, hs.name]
  have hconversions : Polygon.conversions a = Polygon.conversions b := by
    rw [Polygon.conversions, Polygon.conversions, conversionsBy_congr h, hs.point]
  have hequality : Polygon.equality a = Polygon.equality b := by
    rw [Polygon.equality, Polygon.equality, equalityMembers_congr hs]
  have hformatting : Polygon.formatting a = Polygon.formatting b := by
    rw [Polygon.formatting, Polygon.formatting, toStringMembers_congr hs]
  have hbinary : Polygon.binary a = Polygon.binary b := by
    rw [Polygon.binary, Polygon.binary, binaryMembers_congr h, hs.point, hs.name]
  have hperimeter : Polygon.perimeter a = Polygon.perimeter b := by
    rw [Polygon.perimeter, Polygon.perimeter, hs.real, hs.name]
  have hcontains : Polygon.contains a = Polygon.contains b := by
    rw [Polygon.contains, Polygon.contains, hs.name, hs.point, hs.real]
  have hfunctions : Polygon.functions a = Polygon.functions b := by
    rw [Polygon.functions, Polygon.functions, hperimeter, hcontains, hs.dimension]
  rw [Polygon.script, Polygon.script, hfields, hproperties, hconstructors, hoperations, hconversions, hequality,
    hformatting, hbinary, equalsFunction_congr hs, hfunctions, outline_congr hs]

/-- The ray names the plane and the sphere of its own number type and dimension. -/
theorem Ray.script_congr (h : a.Agree b) : Ray.script a = Ray.script b := by
  have hs := h.toSameType
  have hconstructors : Ray.constructors a = Ray.constructors b := by
    rw [Ray.constructors, Ray.constructors, fieldConstructor_congr hs, chainedConstructor_congr hs, hs.point]
  have hoperations : Ray.operations a = Ray.operations b := by
    rw [Ray.operations, Ray.operations, displacements_congr hs, hs.name]
  have hpoint : Ray.pointAt a = Ray.pointAt b := by
    rw [Ray.pointAt, Ray.pointAt, hs.point, hs.name, hs.scalar]
  have hplane : Ray.meetPlane a = Ray.meetPlane b := by
    simp only [Ray.meetPlane, Ray.distanceOrNull, hs.scalar, hs.name, hs.shapeName, hs.numeric]
  have hsphere : Ray.meetSphere a = Ray.meetSphere b := by
    simp only [Ray.meetSphere, Ray.distanceOrNull, hs.scalar, hs.name, hs.shapeName, hs.numeric]
  have hfunctions : Ray.functions a = Ray.functions b := by
    rw [Ray.functions, Ray.functions, hpoint, hplane, hsphere]
  rw [Ray.script, Ray.script, fields_congr hs, hconstructors, hoperations, derivedMembers_congr h,
    derivedFunctions_congr h, hfunctions, outline_congr hs]

/-- Circles and spheres are called after the shape of the context, and described by the figure. -/
theorem Round.script_congr (h : a.Agree b) (figure : Round.Figure) : Round.script figure a = Round.script figure b := by
  have hs := h.toSameType
  have hcoordinates : Round.coordinates a = Round.coordinates b := by
    rw [Round.coordinates, Round.coordinates, hs.dimension]
  have hradius : Round.radiusDoc a = Round.radiusDoc b := by
    unfold Round.radiusDoc
    rw [hs.parameter]
  have hlist : Round.storedFields a = Round.storedFields b := by
    rw [Round.storedFields, Round.storedFields, hcoordinates, hradius, hs.parameter]
  have hconstants : Round.constants a = Round.constants b := by
    rw [Round.constants, Round.constants, constant_congr hs, hs.name, hcoordinates]
  have hproperties : Round.properties a = Round.properties b := by
    funext measures
    simp only [Round.properties, hs.point, hs.parameter, hs.real, hcoordinates]
  have hconstructors : Round.constructors a = Round.constructors b := by
    rw [Round.constructors, Round.constructors, fieldConstructor_congr hs, chainedConstructor_congr hs, hlist, hradius,
      hcoordinates, hs.point, hs.parameter, hs.scalar]
  have hoperations : Round.operations a = Round.operations b := by
    rw [Round.operations, Round.operations, displacements_congr hs, hs.name, hs.parameter]
  have hcontains : Round.contains a = Round.contains b := by
    rw [Round.contains, Round.contains, hs.name, hs.parameter, hs.point]
  have hintersects : Round.intersects a = Round.intersects b := by
    rw [Round.intersects, Round.intersects, hs.name, hs.parameter]
  rw [Round.script, Round.script, hconstants, hlist, fields_congr hs, hproperties, hconstructors, hoperations,
    derivedMembers_congr h, derivedFunctions_congr h, hcontains, hintersects, outline_congr hs]

/-! ## All templates -/

/-- In contexts that agree a template has one script, or one refusal. -/
theorem script_congr (h : a.Agree b) (t : Template) : t.script a = t.script b := by
  cases t with
  | circle => exact congrArg Except.ok (Round.script_congr h Round.circle)
  | sphere => exact congrArg Except.ok (Round.script_congr h Round.sphere)
  | line => exact congrArg Except.ok (Line.script_congr h)
  | plane => exact congrArg Except.ok (Plane.script_congr h)
  | polygon => exact congrArg Except.ok (Polygon.script_congr h)
  | ray => exact congrArg Except.ok (Ray.script_congr h)
  | ellipse =>
    have haxes : Ellipse.scriptOn a = Ellipse.scriptOn b := funext (Ellipse.scriptOn_congr h)
    rw [script, script, Ellipse.script, Ellipse.script, haxes, h.dimension]
  | rectangle =>
    have haxes : Rectangle.scriptOn a = Rectangle.scriptOn b := funext (Rectangle.scriptOn_congr h)
    rw [script, script, Rectangle.script, Rectangle.script, haxes, h.dimension]

end GeometrySource.Template
