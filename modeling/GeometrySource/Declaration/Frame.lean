import GeometrySource.Context
import GeometrySource.Declaration.Doc

/-!
# The frame of a file

A file opens a namespace, which holds the struct of the shape and after it the static class that accompanies it.
-/

namespace GeometrySource.Declaration

open Script

/-- The mark of a declaration outside the common language subset. -/
def clsMarker : String :=
  "[CLSCompliant(false)]"

/-- The namespaces that a file uses, and the opening of its own. -/
def openFile (ctx : Context) : Script :=
  [.line "using System;", .line "using System.Diagnostics.Contracts;", .line "using System.Globalization;",
    .line "using System.Runtime.InteropServices;", .line "", .line ("namespace " ++ ctx.namespaceName)] ++
    openBlock

/-- The end of the namespace. -/
def closeFile : Script :=
  closeBlock

/-- The marker line if it is called for. -/
def clsMarkerIf (marked : Bool) : Script :=
  if marked then [.line clsMarker] else []

/-- The head of the struct, with its description, and the opening of its block. -/
def openStruct (ctx : Context) (description : String) : Script :=
  summary ("Represents " ++ description ++ " in " ++ ctx.dimension.repr ++ " dimensional space, using " ++
      ctx.numeric.description ++ ".") ++
    [.line "[Serializable]", .line "[ComVisible(true)]", .line "[StructLayout(LayoutKind.Sequential)]"] ++
    clsMarkerIf (!ctx.numeric.clsCompliant) ++
    [.line ("public struct " ++ ctx.name ++ " : IEquatable<" ++ ctx.name ++ ">, IFormattable")] ++
    openBlock

/-- The end of the struct. -/
def closeStruct : Script :=
  closeBlock

/-- The head of the static class that accompanies the struct, and the opening of its block. -/
def openCompanion (ctx : Context) : Script :=
  .separate :: summary ("Provides static methods for " ++ ctx.parameter ++ " functions.") ++
    [.line ("public static partial class " ++ ctx.companion)] ++
    openBlock

/-- The end of the static class. -/
def closeCompanion : Script :=
  closeBlock

end GeometrySource.Declaration
