import GeometrySource.Proofs.Catalogue.Conversion
import GeometrySource.Proofs.Config.Validation
import GeometrySource.Proofs.Template.Orderly

/-!
# The blank lines of a generated file

In a generated file the blank lines are in their places and no line ends in white space, whatever template made the
declaration for whatever shape. It begins with the namespaces that it uses and ends with one closing brace.
-/

namespace GeometrySource.Catalogue

open Declaration Script Text

variable {ctx : Context} {declaration : Script}

/-! ## The header -/

/-- The line that opens a namespace which shows may stand anywhere. -/
theorem mayFollow_namespace (h : allBlank ctx.namespaceName = false) (above : String) :
    MayFollow above ("namespace " ++ ctx.namespaceName) := by
  have hdiverge : ∀ start, Diverge "namespace " start → Diverge ("namespace " ++ ctx.namespaceName) start :=
    fun start hstart => diverge_append hstart _
  have htab := hdiverge "\t" (by decide)
  refine mayFollow_of_visible ?_ (not_isClosing_of_diverge htab (hdiverge _ (by decide)) (hdiverge _ (by decide)))
    (not_isRegionHead_of_diverge htab (hdiverge _ (by decide)))
  rw [allBlank] at h
  rw [allBlank, String.toList_append, List.all_append, h, Bool.and_false]

/-- The header lines of a file may stand below each other, if the namespace shows. -/
theorem isChain_headerLines (h : allBlank ctx.namespaceName = false) : (headerLines ctx).IsChain MayFollow := by
  have hplain : ∀ above line, allBlank line = false → ¬IsClosing line → ¬IsRegionHead line → MayFollow above line :=
    fun above line => mayFollow_of_visible
  have hblank : MayFollow "using System.Runtime.InteropServices;" "" :=
    ⟨fun _ => by decide, fun hclosing => absurd hclosing (by decide), fun hregion => absurd hregion (by decide)⟩
  simp only [headerLines, List.isChain_cons_cons, List.isChain_singleton]
  exact ⟨hplain _ _ (by decide) (by decide) (by decide), hplain _ _ (by decide) (by decide) (by decide),
    hplain _ _ (by decide) (by decide) (by decide), hblank, mayFollow_namespace h _,
    hplain _ _ (by decide) (by decide) (by decide), trivial⟩

/-- No header line ends in white space, if the namespace shows and does not. -/
theorem not_ends_headerLines (h : allBlank ctx.namespaceName = false) (hlast : ¬Ends isBlank ctx.namespaceName) :
    ∀ line ∈ headerLines ctx, ¬Ends isBlank line := by
  have hne : ctx.namespaceName ≠ "" := by
    intro hempty
    rw [hempty] at h
    cases h
  have hnamespace : ¬Ends isBlank ("namespace " ++ ctx.namespaceName) := by
    rw [ends_append, not_or]
    exact ⟨hlast, fun hempty => hne hempty.1⟩
  simp +decide [headerLines, hnamespace]

/-! ## Files -/

/-- The blank lines of a file around a spaced declaration are in their places. -/
theorem wellSpaced_sourceFor (spec : Spec) (hnamespace : SingleLine ctx.namespaceName)
    (hshows : allBlank ctx.namespaceName = false) (hlast : ¬Ends isBlank ctx.namespaceName)
    (hnested : declaration.Nested) (hlines : declaration.EachLine SingleLine) (h : declaration.Spaced false) :
    WellSpaced (Text.lines (sourceFor spec ctx declaration).text) := by
  have hwording := wording_fileScript ctx declaration
  have hdeclaration : ("\x7b" :: (declaration.wording true ++ ["\x7d"])).IsChain MayFollow := by
    have hclose : Spaced false [.line "\x7d"] := ⟨⟨by decide, by decide⟩, by decide, rfl⟩
    have hbrace : Above false true "\x7b" := .brace (by decide)
    have hchain := ((spaced_append h).mpr hclose).isChain hbrace
    rwa [wording_append] at hchain
  have hend : ["\x7d", ""].IsChain MayFollow := by
    refine List.isChain_pair.mpr ⟨fun _ => by decide, fun hclosing => absurd hclosing (by decide), fun hregion => ?_⟩
    exact absurd hregion (by decide)
  refine Emitter.wellSpaced_run_fresh (nested_fileScript ctx hnested) (singleLine_fileScript hnamespace hlines) ?_ ?_ ?_
  · have hbody := (h.eachLine.mono fun _ => Trim.not_ends_isBlank).wording (by decide) true
    rw [hwording]
    simp only [List.forall_mem_append]
    exact ⟨not_ends_headerLines hshows hlast, hbody, by decide⟩
  · rw [hwording]
    rintro _ ⟨⟩
    decide
  · -- The chain is cut at the two braces around the declaration.
    have hlist : headerLines ctx ++ (declaration.wording true ++ ["\x7d"]) ++ [""] =
        (headerLines ctx).dropLast ++ "\x7b" :: (declaration.wording true ++ "\x7d" :: [""]) := by
      simp [headerLines]
    rw [hwording, hlist, List.isChain_split]
    exact ⟨isChain_headerLines hshows, List.isChain_cons_split.mpr ⟨hdeclaration, hend⟩⟩

/-- The discipline of a generated file:
1. Its blank lines are in their places and no line ends in white space.
2. It begins with `using System;`.
3. It ends with a closing brace and a single line feed.

The names that the configuration supplies have to stay on one line, and the namespace must not end in white space. -/
theorem wellSpaced_of_generate {c : Catalogue} {spec : Spec} {source : Source}
    (hnamespace : SingleLine c.config.namespaceName) (hwriter : SingleLine c.config.binaryWriter)
    (hreader : SingleLine c.config.binaryReader) (hlast : ¬Ends isBlank c.config.namespaceName)
    (h : c.generate spec = .ok source) :
    WellSpaced (Text.lines source.text) ∧ StartsWith "using System;" source.text ∧
      ∃ front, source.text = front ++ "\x7d\n" := by
  obtain ⟨t, ctx, declaration, -, -, hctx, hscript, rfl⟩ := generate_eq_ok h
  obtain ⟨a, rfl, -⟩ := Template.exists_arrangement_of_ofSpec hctx hwriter hreader hscript
  obtain ⟨dimension, -, rfl⟩ := Template.exists_of_map_eq_ok hctx
  have hnested := Template.nested_script hscript
  have hshows := ((Config.validate_eq_ok_iff c.config).mp c.valid).1
  refine ⟨?_, ?_, ?_⟩
  · exact wellSpaced_sourceFor spec hnamespace hshows hlast hnested a.singleLine_script
      (Template.orderly_script hscript).spaced
  · rw [text_sourceFor spec _ hnested, headerLines, unlines_cons]
    simp only [String.append_assoc]
    exact startsWith_append _ _
  · exact ⟨_, text_sourceFor spec _ hnested⟩

/-- A circle declared by the template of polygons, without conversions since it is generated for one number type only. -/
theorem wellSpaced_of_generate_circle :
    ∃ bare c source, empty { generalTypes := [.int], realTypes := [.double] } = .ok bare ∧
      c = bare.register .circle .polygon ∧ SingleLine c.config.namespaceName ∧ SingleLine c.config.binaryWriter ∧
      SingleLine c.config.binaryReader ∧ ¬Ends isBlank c.config.namespaceName ∧
      c.generate ⟨.circle, .int, none⟩ = .ok source ∧ WellSpaced (Text.lines source.text) ∧
      StartsWith "using System;" source.text ∧ ∃ front, source.text = front ++ "\x7d\n" := by
  have hnames : SingleLine "Numerics.Geometry" ∧ SingleLine "System.IO.BinaryWriter" ∧
      SingleLine "System.IO.BinaryReader" ∧ ¬Ends isBlank "Numerics.Geometry" := by decide
  obtain ⟨hnamespace, hwriter, hreader, hlast⟩ := hnames
  have hspaced := @wellSpaced_of_generate
    (register ⟨{ generalTypes := [.int], realTypes := [.double] }, fun _ => none, rfl⟩ .circle .polygon)
    ⟨.circle, .int, none⟩ _ hnamespace hwriter hreader hlast rfl
  exact ⟨_, _, _, rfl, rfl, hnamespace, hwriter, hreader, hlast, rfl, hspaced⟩

end GeometrySource.Catalogue
