import GeometrySource.Proofs.Catalogue.Conversion
import GeometrySource.Proofs.Template.Orderly

/-!
# What a generated file declares

A generated file declares one struct, under the name that is reported for the file, and one static class, named for the
shape. All constructors are for the struct. The static class has two extension methods, of which one writes values of the
struct and the other reads them.
-/

namespace GeometrySource

open Declaration Script Text

/-- What the lines of a file, without the tabs in front, declare for a shape and the name of its type. -/
structure Declares (shape : Shape) (type writer reader : String) (lines : List String) : Prop where
  /-- One line begins like the head of a struct, and it is that of the struct with the name. -/
  struct : lines.filter (StartsWith structOpening ·) = [structLine type]
  /-- One line begins like the head of a static class, and the class is named for the shape. -/
  companion : lines.filter (StartsWith classOpening ·) = [classOpening ++ shape.name]
  /-- Behind a doc comment that says that it is that of a constructor, the next line that is no comment is the head of a
  constructor of the struct. -/
  announced : ∀ line after, line :: after <:+ lines → StartsWith announcement line → Introduced type after
  /-- No line is the head of a constructor of anything else. -/
  constructed : ∀ line ∈ lines, ∀ w, IsWord w → StartsWith (constructorOpening w) line → w = type
  /-- There are two extension methods, both behind the head of the static class: one called `Write`, whose second parameter
  is of the struct, and one called `Read` and the name, which returns the struct. -/
  extensions : ∃ before behind, lines = before ++ (classOpening ++ shape.name) :: behind ∧
    before.filter (IsExtensionHead ·) = [] ∧
    behind.filter (IsExtensionHead ·) =
      ["public static void Write(this " ++ writer ++ " writer, " ++ type ++ " " ++ shape.parameter ++ ")",
        "public static " ++ type ++ " Read" ++ type ++ "(this " ++ reader ++ " reader)"]

/-! ## Landmarks of each kind -/

/-- Lines of one kind of landmark are found among the landmarks. -/
theorem filter_landmarks {P : String → Prop} [DecidablePred P] (h : ∀ line, P line → IsLandmark line)
    (lines : List String) : lines.filter (P ·) = (lines.filter (IsLandmark ·)).filter (P ·) := by
  rw [List.filter_filter]
  refine List.filter_congr fun line _ => ?_
  by_cases hline : P line
  · simp [hline, h line hline]
  · simp [hline]

variable (ctx : Context)

/-- The head of the struct is no other landmark. -/
theorem of_structLine (type : String) :
    StartsWith structOpening (structLine type) ∧ ¬StartsWith classOpening (structLine type) ∧
      ¬IsExtensionHead (structLine type) := by
  have hstart := startsWith_structLine type
  exact ⟨hstart, (show Diverge structOpening classOpening by decide).not_startsWith_of_startsWith hstart,
    fun hmark => (show Diverge structOpening staticOpening by decide).not_startsWith_of_startsWith hstart hmark.1⟩

/-- The heads of the extension methods are no other landmarks. -/
theorem of_binaryHeads : ∀ head ∈ [writeHead ctx, readHead ctx],
    ¬StartsWith structOpening head ∧ ¬StartsWith classOpening head ∧ IsExtensionHead head := by
  have hstruct : ∀ head, IsExtensionHead head → ¬StartsWith structOpening head := fun head hmark =>
    (show Diverge staticOpening structOpening by decide).not_startsWith_of_startsWith hmark.1
  simp only [List.forall_mem_cons]
  refine ⟨?_, ?_, by simp⟩
  · have hmark := isExtensionHead_writeHead ctx
    refine ⟨hstruct _ hmark, ?_, hmark⟩
    have hline := writeHead_eq ctx
    rw [String.append_assoc] at hline
    exact not_startsWith_classOpening _ _ hline (by decide)
  · have hmark := isExtensionHead_readHead ctx
    refine ⟨hstruct _ hmark, ?_, hmark⟩
    have hline := readHead_eq ctx
    rw [String.append_assoc] at hline
    exact not_startsWith_classOpening _ _ hline (diverge_append (diverge_append (isType_name ctx).noClass _) _)

/-- The head of the static class opens no struct. -/
theorem of_classLine : ¬StartsWith structOpening (classLine ctx) ∧ StartsWith classOpening (classLine ctx) := by
  have hstart : StartsWith classOpening (classLine ctx) := startsWith_append _ _
  exact ⟨(show Diverge classOpening structOpening by decide).not_startsWith_of_startsWith hstart, hstart⟩

/-! ## Files -/

/-- A script with the landmarks of a declaration declares the type of the context. -/
theorem declares_of_landmarked {script : Script} (h : Landmarked ctx.name (landmarks ctx) script) :
    Declares ctx.shape ctx.name ctx.binaryWriter ctx.binaryReader ((script.wording true).map unindent) := by
  obtain ⟨hstruct, hstructClass, hstructHead⟩ := of_structLine ctx.name
  obtain ⟨hclassStruct, hclass⟩ := of_classLine ctx
  obtain ⟨hwriteStruct, hwriteClass, hwrite⟩ := of_binaryHeads ctx (writeHead ctx) (by simp)
  obtain ⟨hreadStruct, hreadClass, hread⟩ := of_binaryHeads ctx (readHead ctx) (by simp)
  have hmarks := h.filter_wording true
  refine ⟨?_, ?_, fun line after hsuffix hline => h.announced true hsuffix hline, h.constructed true, ?_⟩
  · rw [filter_landmarks fun line hline => .inl hline, hmarks]
    simp [landmarks, hstruct, hclassStruct, hwriteStruct, hreadStruct]
  · rw [filter_landmarks fun line hline => .inr (.inl hline), hmarks]
    change _ = [classLine ctx]
    simp [landmarks, hstructClass, hclass, hwriteClass, hreadClass]
  · obtain ⟨first, second, hlines, hfirst, hsecond⟩ := List.filter_eq_append_iff.mp
      (hmarks.trans (List.singleton_append (x := structLine ctx.name)).symm)
    obtain ⟨more, behind, rfl, hmore, -, hbehind⟩ := List.filter_eq_cons_iff.mp hsecond
    have hbefore : (first ++ more).filter (IsLandmark ·) = [structLine ctx.name] := by
      rw [List.filter_append, hfirst, List.filter_eq_nil_iff.mpr hmore, List.append_nil]
    refine ⟨first ++ more, behind, ?_, ?_, ?_⟩
    · rw [hlines, List.append_assoc]
      rfl
    · rw [filter_landmarks fun line hline => .inr (.inr hline), hbefore]
      simp [hstructHead]
    · change _ = [writeHead ctx, readHead ctx]
      rw [filter_landmarks fun line hline => .inr (.inr hline), hbehind]
      simp [hwrite, hread]

/-- The header of a file has nothing to do with landmarks. -/
theorem landmarked_header (type : String) : Landmarked type [] (lines (Catalogue.headerLines ctx).dropLast) := by
  simp +decide [Catalogue.headerLines, Script.lines, landmarked_cons_of_diverge, landmarked_blank_cons]

namespace Catalogue

/-- A file around an orderly declaration declares the type of the context. -/
theorem declares_sourceFor {ctx : Context} {declaration : Script} (spec : Spec) (hnamespace : SingleLine ctx.namespaceName)
    (hnested : declaration.Nested) (hlines : declaration.EachLine SingleLine)
    (h : Orderly ctx.name (landmarks ctx) declaration) :
    Declares ctx.shape ctx.name ctx.binaryWriter ctx.binaryReader
      (unindentedLines (sourceFor spec ctx declaration).text) := by
  -- The blank line behind the last line feed belongs to the lines of the text, so it is put behind the script.
  have hlines : unindentedLines (sourceFor spec ctx declaration).text =
      (wording true (fileScript ctx declaration ++ [.line ""])).map unindent := by
    rw [sourceFor, Emitter.unindentedLines_run_fresh (nested_fileScript ctx hnested)
      (singleLine_fileScript hnamespace hlines), wording_append, List.map_append]
    rfl
  have hblank : Landmarked ctx.name [] [.line ""] := landmarked_blank_cons.mpr landmarked_nil
  have hblock := h.block.landmarked.append hblank
  rw [List.append_nil] at hblock
  have hwhole : Landmarked ctx.name (landmarks ctx) (fileScript ctx declaration ++ [.line ""]) := by
    rw [fileScript_eq, List.append_assoc, landmarked_append (landmarked_header ctx ctx.name)]
    exact hblock
  exact hlines ▸ declares_of_landmarked ctx hwhole

/-- A generated file declares the type that it is reported under and the members that belong to it, provided that the
names which the configuration supplies stay on one line. -/
theorem declares_of_generate {c : Catalogue} {spec : Spec} {source : Source}
    (hnamespace : SingleLine c.config.namespaceName) (hwriter : SingleLine c.config.binaryWriter)
    (hreader : SingleLine c.config.binaryReader) (h : c.generate spec = .ok source) :
    Declares spec.shape source.typeName c.config.binaryWriter c.config.binaryReader (unindentedLines source.text) := by
  obtain ⟨t, ctx, declaration, -, -, hctx, hscript, rfl⟩ := generate_eq_ok h
  obtain ⟨a, rfl, -⟩ := Template.exists_arrangement_of_ofSpec hctx hwriter hreader hscript
  obtain ⟨dimension, -, rfl⟩ := Template.exists_of_map_eq_ok hctx
  have hline : SingleLine (Context.namespaceName ⟨spec, dimension, spec.numeric, c.config⟩) := hnamespace
  exact declares_sourceFor spec hline (Template.nested_script hscript) a.singleLine_script
    (Template.orderly_script hscript)

/-- A line segment declared by the template of rays. -/
theorem declares_of_generate_line :
    ∃ bare c source, empty { generalTypes := [.int, .long], realTypes := [.double] } = .ok bare ∧
      c = bare.register .line .ray ∧ SingleLine c.config.namespaceName ∧ SingleLine c.config.binaryWriter ∧
      SingleLine c.config.binaryReader ∧ c.generate ⟨.line, .long, some 3⟩ = .ok source ∧ source.typeName = "Line3L" ∧
      Declares .line source.typeName c.config.binaryWriter c.config.binaryReader (unindentedLines source.text) := by
  have hsingle : SingleLine "Numerics.Geometry" ∧ SingleLine "System.IO.BinaryWriter" ∧
      SingleLine "System.IO.BinaryReader" := by decide
  obtain ⟨hnamespace, hwriter, hreader⟩ := hsingle
  have hdeclares := @declares_of_generate
    (register ⟨{ generalTypes := [.int, .long], realTypes := [.double] }, fun _ => none, rfl⟩ .line .ray)
    ⟨.line, .long, some 3⟩ _ hnamespace hwriter hreader rfl
  exact ⟨_, _, _, rfl, rfl, hnamespace, hwriter, hreader, rfl, rfl, hdeclares⟩

end Catalogue

end GeometrySource
