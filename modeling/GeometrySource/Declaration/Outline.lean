import GeometrySource.Declaration.Binary
import GeometrySource.Declaration.Constructor
import GeometrySource.Declaration.Conversion
import GeometrySource.Declaration.Equality
import GeometrySource.Declaration.Formatting
import GeometrySource.Declaration.Frame
import GeometrySource.Declaration.Operator
import GeometrySource.Declaration.Property
import GeometrySource.Layout.Emission

/-!
# Outlines

The order of the parts of a declaration: the struct with its members, then the static class with its functions. The
parts that follow from the list of fields alone come last in the struct and first in the static class.
-/

namespace GeometrySource.Declaration

open Script

/-- A struct with its members, and the static class beside it with its functions. -/
def outline (ctx : Context) (description : String) (members functions : Script) : Script :=
  openStruct ctx description ++ members ++ closeStruct ++ openCompanion ctx ++ functions ++ closeCompanion

/-- The members that follow from the fields, with further conversions after those from the other number types. -/
def derivedMembers (ctx : Context) (list : List Field) (furtherConversions : Script) : Script :=
  region "Conversions" (conversions ctx list ++ furtherConversions) ++ equality ctx list ++ toStringRegion ctx list

/-- The functions that follow from the fields. -/
def derivedFunctions (ctx : Context) (list : List Field) : Script :=
  binary ctx list ++ equalsFunction ctx

end GeometrySource.Declaration
