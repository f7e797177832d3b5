import GeometrySource.Declaration.Expression
import GeometrySource.Declaration.Field

/-!
# Binary streams

The `Write` and `Read` functions beside a struct. Over fields, reading goes through a variable for each field, so that
fields are read in the order in which they are written.
-/

namespace GeometrySource.Declaration

open Script

/-- The two functions, by their statements. -/
def binaryMembers (ctx : Context) (writes reads : List String) : Script :=
  summary ("Writes the given " ++ see ctx.name ++ " to a binary stream.") ++
    param "writer" "The binary writer to write to." ++
    param ctx.parameter ("The " ++ see ctx.name ++ " to write.") ++
    .line ("public static void Write(this " ++ ctx.binaryWriter ++ " writer, " ++ ctx.name ++ " " ++ ctx.parameter ++
      ")") ::
    body writes ++
    summary ("Reads a " ++ see ctx.name ++ " from a binary stream.") ++
    param "reader" "The binary reader to read from." ++
    returns ("The " ++ see ctx.name ++ " read from the stream.") ++
    .line ("public static " ++ ctx.name ++ " Read" ++ ctx.name ++ "(this " ++ ctx.binaryReader ++ " reader)") ::
    body reads

/-- The statements that write the fields. -/
def fieldWrites (ctx : Context) (list : List Field) : List String :=
  list.map fun f => "writer.Write(" ++ ctx.parameter ++ "." ++ f.name ++ ");"

/-- The statements that read the fields and return the value made of them. -/
def fieldReads (ctx : Context) (list : List Field) : List String :=
  (list.map fun f => "var " ++ f.parameter ++ " = reader." ++ f.readMethod ctx ++ "();") ++
    [returning (construct ctx.name (list.map Field.parameter))]

/-- The region of the binary functions over fields. -/
def binary (ctx : Context) (list : List Field) : Script :=
  region "Binary" (binaryMembers ctx (fieldWrites ctx list) (fieldReads ctx list))

end GeometrySource.Declaration
