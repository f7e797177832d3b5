import GeometrySource.Template.Ellipse
import GeometrySource.Template.Line
import GeometrySource.Template.Plane
import GeometrySource.Template.Polygon
import GeometrySource.Template.Ray
import GeometrySource.Template.Rectangle
import GeometrySource.Template.Round

/-!
# Templates

A template makes the declaration of one shape from a context. Any template may be used in any context: what it says then
is about the context's shape, in the manner of its own.
-/

namespace GeometrySource

/-- The declarations that can be made. -/
inductive Template
  | circle
  | ellipse
  | line
  | plane
  | polygon
  | ray
  | rectangle
  | sphere
  deriving DecidableEq, Repr

namespace Template

/-- The templates, in the order of the shapes that they are made for. -/
def all : List Template :=
  [circle, ellipse, line, plane, polygon, ray, rectangle, sphere]

/-- The shape that a template is made for. -/
def shape : Template → Shape
  | circle => .circle
  | ellipse => .ellipse
  | line => .line
  | plane => .plane
  | polygon => .polygon
  | ray => .ray
  | rectangle => .rectangle
  | sphere => .sphere

/-- The name of a template. -/
def name (t : Template) : String :=
  t.shape.parameter

/-- The template with a name. -/
def ofName? (name : String) : Option Template :=
  all.find? fun t => t.name = name

/-- The script of the declaration. The templates of shapes with a size refuse dimensions without one. -/
def script (t : Template) (ctx : Context) : Except Error Script :=
  match t with
  | circle => .ok (Round.script Round.circle ctx)
  | ellipse => Ellipse.script ctx
  | line => .ok (Line.script ctx)
  | plane => .ok (Plane.script ctx)
  | polygon => .ok (Polygon.script ctx)
  | ray => .ok (Ray.script ctx)
  | rectangle => Rectangle.script ctx
  | sphere => .ok (Round.script Round.sphere ctx)

/-- Writes the declaration, one part after another, and looks up on the way what the parts need. -/
def emission (t : Template) (ctx : Context) : Emission Unit :=
  match t with
  | circle => Round.emission Round.circle ctx
  | ellipse => Ellipse.emission ctx
  | line => Line.emission ctx
  | plane => Plane.emission ctx
  | polygon => Polygon.emission ctx
  | ray => Ray.emission ctx
  | rectangle => Rectangle.emission ctx
  | sphere => Round.emission Round.sphere ctx

/-- Writes the declaration on an emitter. What has been written before a refusal stays there. -/
def emit (t : Template) (ctx : Context) (e : Emitter) : Except Error Unit × Emitter :=
  (t.emission ctx).run e

/-- Whatever a template may have to look up, it looks up in front of the first line that it writes. -/
theorem emission_eq (t : Template) (ctx : Context) :
    t.emission ctx = (Emission.lookUp (t.script ctx) >>= Emission.write) := by
  cases t with
  | circle => exact Round.emission_eq Round.circle ctx
  | sphere => exact Round.emission_eq Round.sphere ctx
  | line => exact Line.emission_eq ctx
  | plane => exact Plane.emission_eq ctx
  | polygon => exact Polygon.emission_eq ctx
  | ray => exact Ray.emission_eq ctx
  | ellipse => exact Ellipse.emission_eq ctx
  | rectangle => exact Rectangle.emission_eq ctx

/-- A template that has a script for the context runs it. -/
theorem emit_of_ok {t : Template} {ctx : Context} {declaration : Script} (h : t.script ctx = .ok declaration)
    (e : Emitter) : t.emit ctx e = (.ok (), e.run declaration) := by
  simp only [emit, emission_eq, h, Emission.run_bind, Emission.run_lookUp, Emission.run_write]

/-- A template that has no script for the context leaves the emitter as it is. -/
theorem emit_of_error {t : Template} {ctx : Context} {error : Error} (h : t.script ctx = .error error) (e : Emitter) :
    t.emit ctx e = (.error error, e) := by
  simp only [emit, emission_eq, h, Emission.run_bind, Emission.run_lookUp]

end Template

/-- The template made for a shape. -/
def Shape.template : Shape → Template
  | .circle => .circle
  | .ellipse => .ellipse
  | .line => .line
  | .plane => .plane
  | .polygon => .polygon
  | .ray => .ray
  | .rectangle => .rectangle
  | .sphere => .sphere

end GeometrySource
