import GeometrySource.Proofs.Declaration.FieldText
import GeometrySource.Proofs.Layout.Wording

/-!
# The types of the writer and the reader

The heads of the binary functions are the only lines that depend on the types of the writer and the reader. Every other line
of a declaration is there without them as well.
-/

namespace GeometrySource

open Declaration Script

/-- A context without the types of the writer and the reader. -/
def Context.streamless (ctx : Context) : Context :=
  { ctx with config := { ctx.config with binaryWriter := "", binaryReader := "" } }

namespace Declaration

/-- Whether every line of a script is a line of another one or the head of a binary function. -/
def Streams (ctx : Context) (script bare : Script) : Prop :=
  EachLine (fun text => .line text ∈ bare ∨ text = writeHead ctx ∨ text = readHead ctx) script

variable {ctx : Context}

@[simp]
theorem streams_self (script : Script) : Streams ctx script script := fun _ h => .inl h

theorem Streams.append {first second bare more : Script} (hfirst : Streams ctx first bare)
    (hsecond : Streams ctx second more) : Streams ctx (first ++ second) (bare ++ more) := by
  refine eachLine_append.mpr ⟨hfirst.mono fun text h => ?_, hsecond.mono fun text h => ?_⟩
  · exact h.imp_left (List.mem_append_left _)
  · exact h.imp_left (List.mem_append_right _)

theorem Streams.region {name : String} {inner bare : Script} (h : Streams ctx inner bare) :
    Streams ctx (region name inner) (region name bare) :=
  ((streams_self _).append h).append (streams_self _)

/-- The head of a binary function may stand where another line stands. -/
theorem Streams.head_cons {head other : String} {rest bare : Script} (hhead : head = writeHead ctx ∨ head = readHead ctx)
    (h : Streams ctx rest bare) : Streams ctx (.line head :: rest) (.line other :: bare) :=
  eachLine_line_cons.mpr ⟨.inr hhead, h.mono fun _ hline => hline.imp_left (List.mem_cons_of_mem _)⟩

/-- The binary functions have the same lines without the writer and the reader, except for their heads. -/
theorem streams_binaryMembers (writes reads : List String) :
    Streams ctx (binaryMembers ctx writes reads) (binaryMembers ctx.streamless writes reads) := by
  have hwrite : Streams ctx (method (writeHead ctx) writes) (method (writeHead ctx.streamless) writes) :=
    Streams.head_cons (.inl rfl) (streams_self _)
  have hread : Streams ctx (method (readHead ctx) reads) (method (readHead ctx.streamless) reads) :=
    Streams.head_cons (.inr rfl) (streams_self _)
  rw [binaryMembers_eq, binaryMembers_eq]
  exact (((streams_self _).append hwrite).append (streams_self _)).append hread

/-- The functions of a static class may use the writer and the reader, but not the members of the struct. -/
theorem Streams.outline {description : String} {members functions bare : Script} (h : Streams ctx functions bare) :
    Streams ctx (outline ctx description members functions) (outline ctx.streamless description members bare) :=
  ((streams_self _).append h).append (streams_self _)

theorem streams_derivedFunctions (list : List Field) :
    Streams ctx (derivedFunctions ctx list) (derivedFunctions ctx.streamless list) :=
  (streams_binaryMembers _ _).region.append (streams_self _)

end Declaration

end GeometrySource
