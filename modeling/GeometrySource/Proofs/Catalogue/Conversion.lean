import GeometrySource.Proofs.Catalogue.Generate
import GeometrySource.Proofs.Naming.TypeName
import GeometrySource.Proofs.Template.Arrangement

/-!
# The conversions of a generated file

A generated file declares a conversion from every other number type that its shape is generated for, an ellipse one from
every circle as well, and nothing else reads like a conversion. The marker stands in front of the conversions that leave
the common language subset and of a struct outside of it, and nowhere else.
-/

namespace GeometrySource

open Declaration Script Text

/-! ## Names of types -/

/-- No circle is called like an ellipse. -/
theorem typeName_circle_ne_ellipse (n m : Numeric) (dimension : Nat) :
    typeName (.shape .circle) n dimension ≠ typeName (.shape .ellipse) m dimension :=
  fun h => absurd (family_eq_of_typeName_eq h) (by decide)

/-- A conversion names its source. -/
theorem source_eq_of_conversionLine_eq {keyword keyword' target source source' : String} (hsource : IsWord source)
    (hsource' : IsWord source') (h : conversionLine keyword target source = conversionLine keyword' target source') :
    source = source' := by
  have hparenthesis : ∀ name : String, IsWord name → '(' ∉ name.toList := fun name hname hmem =>
    absurd (hname.2 _ hmem) (by decide)
  have hopen : (" operator " ++ target ++ "(").toList = (" operator " ++ target).toList ++ ['('] := by
    rw [String.toList_append]
    rfl
  have hlist := congrArg String.toList h
  rw [toList_conversionLine, toList_conversionLine, hopen] at hlist
  simp only [← List.append_assoc] at hlist
  have hcut := List.append_cancel_right hlist
  rw [List.append_assoc _ ['('], List.append_assoc _ ['(']] at hcut
  exact String.toList_inj.mp (eq_of_append_cons_eq (hparenthesis source hsource) (hparenthesis source' hsource') hcut)

namespace Catalogue

/-! ## Whole files -/

/-- The header of a file is ordinary. -/
theorem ordinary_header {ctx : Context} (h : SingleLine ctx.namespaceName) :
    EachLine Ordinary (lines (headerLines ctx).dropLast) := by
  simp (disch := (with_reducible apply Written.intro; decide)) [headerLines, ordinary_of_written, ordinary_append_iff,
    singleLine_of_written, Ordinary.empty, h]

/-- The lines of a file stay on one line if those of the declaration do. -/
theorem singleLine_fileScript {ctx : Context} {declaration : Script} (hnamespace : SingleLine ctx.namespaceName)
    (h : EachLine SingleLine declaration) : EachLine SingleLine (fileScript ctx declaration) := by
  rw [fileScript_eq, eachLine_append, eachLine_block]
  exact ⟨singleLine_of_ordinary (ordinary_header hnamespace), by decide, h, by decide⟩

/-- The remarks on a file are those on its declaration. -/
theorem remarks_sourceFor {spec : Spec} {ctx : Context} (a : Arrangement ctx) (hnested : a.script.Nested)
    (hnamespace : SingleLine ctx.namespaceName) :
    remarks ctx.name (unindentedLines (sourceFor spec ctx a.script).text) =
      (if ctx.numeric.clsCompliant then [] else [⟨true, structLine ctx.name⟩]) ++
        a.sources.map (Arrangement.remark ctx) := by
  have hshows : Shows ctx.name (fileScript ctx a.script)
      ((if ctx.numeric.clsCompliant then [] else [⟨true, structLine ctx.name⟩]) ++
        a.sources.map (Arrangement.remark ctx)) := by
    rw [fileScript_eq]
    exact (shows_of_ordinary (ordinary_header hnamespace)).append a.shows_script.block
  have hblank : remarksBehind ctx.name false [""] = [] := by
    have hmarker : ("" : String) ≠ clsMarker := by decide
    simp [remarksBehind, not_converts_empty, hmarker]
  rw [sourceFor, Emitter.unindentedLines_run_fresh (nested_fileScript ctx hnested)
    (singleLine_fileScript hnamespace a.singleLine_script), remarks_eq, hshows true [""], hblank, List.append_nil]

end Catalogue

/-! ## Expected conversions -/

/-- A conversion into a declared type. -/
structure Conversion where
  /-- The number type of the source. -/
  numeric : Numeric
  /-- The name of the source. -/
  name : String
  kind : ConversionKind
  deriving DecidableEq, Repr

/-- The line that declares the conversion. -/
def Conversion.line (v : Conversion) (target : String) : String :=
  conversionLine v.kind.keyword target v.name

/-- The conversions into the type of a spec. The types of the same shape come first, those of the other number types in
the configuration's order, and a conversion is implicit where the number types convert implicitly. An ellipse has those
from the circles of all number types as well, and the one from the circle of its own number type is implicit. -/
def Spec.conversions (config : Config) (spec : Spec) (dimension : Nat) : List Conversion :=
  let types := config.typesFor spec.shape
  ((types.filter fun n => n ≠ spec.numeric).map fun n =>
      ⟨n, typeName (.shape spec.shape) n dimension,
        if n.convertsImplicitly spec.numeric then .implicit else .explicit⟩) ++
    if spec.shape = .ellipse then
      types.map fun n =>
        ⟨n, typeName (.shape .circle) n dimension,
          if n = spec.numeric ∨ n.convertsImplicitly spec.numeric then .implicit else .explicit⟩
    else []

/-- The source of an expected conversion has the name of a word, and not that of the target. -/
theorem Spec.name_ne_of_mem_conversions {config : Config} {spec : Spec} {dimension : Nat} {v : Conversion}
    (h : v ∈ spec.conversions config dimension) :
    IsWord v.name ∧ v.name ≠ typeName (.shape spec.shape) spec.numeric dimension := by
  rcases List.mem_append.mp h with hown | hcircle
  · obtain ⟨n, hn, rfl⟩ := List.mem_map.mp hown
    refine ⟨isWord_typeName _ _ _, fun hname => ?_⟩
    have hne : n ≠ spec.numeric := by simpa using (List.mem_filter.mp hn).2
    exact hne (numeric_eq_of_typeName_eq hname)
  · split at hcircle
    · rename_i hellipse
      obtain ⟨n, -, rfl⟩ := List.mem_map.mp hcircle
      exact ⟨isWord_typeName (.shape .circle) n dimension,
        hellipse ▸ typeName_circle_ne_ellipse n spec.numeric dimension⟩
    · cases hcircle

/-- The conversions of an arrangement are the expected ones. -/
theorem Arrangement.remarks_eq_conversions {config : Config} {spec : Spec} {dimension : Nat} {ctx : Context}
    (hctx : ctx = ⟨spec, dimension, spec.numeric, config⟩)
    (a : Arrangement ctx) (hcircles : a.circleArgs?.isSome ↔ spec.shape = .ellipse) :
    a.sources.map (remark ctx) =
      (spec.conversions config dimension).map fun v => ⟨v.numeric.needsClsMarker spec.numeric, v.line ctx.name⟩ := by
  subst hctx
  rw [sources, circleSources, Spec.conversions, List.map_append, List.map_append, List.map_map, List.map_map]
  congr 1
  · refine List.map_congr_left fun n hn => ?_
    have hne : n ≠ spec.numeric := by simpa [Context.others] using (List.mem_filter.mp hn).2
    simp only [Function.comp_apply, remark, operatorLine, Context.conversionKind, if_neg hne, Numeric.conversionKind]
    rfl
  · by_cases hshape : spec.shape = .ellipse
    · rw [if_pos (hcircles.mpr hshape), if_pos hshape, List.map_map, List.map_map]
      refine List.map_congr_left fun n _ => ?_
      have hkind : (if n = spec.numeric then ConversionKind.implicit else n.conversionKind spec.numeric) =
          if n = spec.numeric ∨ n.convertsImplicitly spec.numeric then .implicit else .explicit := by
        by_cases hn : n = spec.numeric <;> simp [hn, Numeric.conversionKind]
      simp only [Function.comp_apply, remark, operatorLine, Context.conversionKind, hkind]
      rfl
    · rw [if_neg (hshape ∘ hcircles.mp), if_neg hshape, List.map_nil, List.map_nil]

/-- The template made for a shape is that of the ellipse for the ellipse alone. -/
theorem Shape.template_eq_ellipse_iff (s : Shape) : s.template = .ellipse ↔ s = .ellipse := by
  cases s <;> decide

/-- What a template declares for a spec is an arrangement, provided that the types of the writer and the reader stay on one
line. -/
theorem Template.exists_arrangement_of_ofSpec {config : Config} {spec : Spec} {ctx : Context} {t : Template}
    {declaration : Script} (hctx : Context.ofSpec config spec = .ok ctx) (hwriter : SingleLine config.binaryWriter)
    (hreader : SingleLine config.binaryReader) (hscript : t.script ctx = .ok declaration) :
    ∃ a : Arrangement ctx, a.script = declaration ∧ (a.circleArgs?.isSome ↔ t = .ellipse) := by
  obtain ⟨dimension, -, hmade⟩ := exists_of_map_eq_ok hctx
  have hconfig : config = ctx.config := by rw [← hmade]
  subst hconfig
  exact @exists_arrangement ctx hwriter hreader _ _ hscript

/-- What generation of a full catalogue gives is an arrangement in the context of the spec. -/
theorem Catalogue.exists_arrangement_of_generate {config : Config} {c : Catalogue} {spec : Spec} {source : Source}
    (hfull : full config = .ok c) (hwriter : SingleLine config.binaryWriter) (hreader : SingleLine config.binaryReader)
    (h : c.generate spec = .ok source) :
    ∃ dimension ctx, ∃ a : Arrangement ctx, spec.resolve = .ok dimension ∧
      ctx = ⟨spec, dimension, spec.numeric, config⟩ ∧
      source = sourceFor spec ctx a.script ∧ a.script.Nested ∧ (a.circleArgs?.isSome ↔ spec.shape = .ellipse) := by
  obtain ⟨hconfig, htemplates⟩ := full_eq_ok hfull
  obtain ⟨t, ctx, declaration, ht, -, hctx, hscript, rfl⟩ := generate_eq_ok h
  rw [htemplates, Option.some.injEq] at ht
  rw [hconfig] at hctx
  obtain ⟨a, rfl, hcircles⟩ := Template.exists_arrangement_of_ofSpec hctx hwriter hreader hscript
  obtain ⟨dimension, hdimension, rfl⟩ := Template.exists_of_map_eq_ok hctx
  refine ⟨dimension, _, a, hdimension, rfl, rfl, Template.nested_script hscript, ?_⟩
  rw [hcircles, ← ht, Shape.template_eq_ellipse_iff]

/-- Conversion completeness and direction. In a file that a full catalogue generates, apart from tabs in front of lines:
1. The lines that stand behind the marker or declare a conversion into the declared type are the line of the struct, if
   its number type is outside the common language subset, and then the expected conversions in order; one of these is
   marked exactly if it brings a number type from outside the subset into one inside it. No other line stands behind the
   marker.
2. The lines that declare a conversion are those of the expected conversions.
3. None of them converts the declared type into itself. -/
theorem conversion_operators {config : Config} {c : Catalogue} {spec : Spec} {source : Source}
    (hfull : Catalogue.full config = .ok c) (hnamespace : SingleLine config.namespaceName)
    (hwriter : SingleLine config.binaryWriter) (hreader : SingleLine config.binaryReader)
    (h : c.generate spec = .ok source) :
    ∃ dimension, spec.resolve = .ok dimension ∧
      source.typeName = typeName (.shape spec.shape) spec.numeric dimension ∧
      remarks source.typeName (unindentedLines source.text) =
        (if spec.numeric.clsCompliant then [] else [⟨true, structLine source.typeName⟩]) ++
          (spec.conversions config dimension).map (fun v =>
            ⟨spec.numeric.clsCompliant && !v.numeric.clsCompliant, v.line source.typeName⟩) ∧
      (unindentedLines source.text).filter (fun line => Converts source.typeName line) =
        (spec.conversions config dimension).map (fun v => v.line source.typeName) ∧
      ∀ keyword, conversionLine keyword source.typeName source.typeName ∉ unindentedLines source.text := by
  obtain ⟨dimension, ctx, a, hdimension, hctx, rfl, hnested, hcircles⟩ :=
    Catalogue.exists_arrangement_of_generate hfull hwriter hreader h
  have hname : ctx.name = typeName (.shape spec.shape) spec.numeric dimension := by rw [hctx]; rfl
  have hnumeric : ctx.numeric = spec.numeric := by rw [hctx]
  have hnamespace' : SingleLine ctx.namespaceName := by rwa [hctx]
  have hremarks : remarks ctx.name (unindentedLines (Catalogue.sourceFor spec ctx a.script).text) = _ :=
    Catalogue.remarks_sourceFor a hnested hnamespace'
  rw [a.remarks_eq_conversions hctx hcircles, hnumeric] at hremarks
  have hfilter : (unindentedLines (Catalogue.sourceFor spec ctx a.script).text).filter
      (fun line => Converts ctx.name line) = (spec.conversions config dimension).map fun v => v.line ctx.name := by
    rw [filter_converts_of_remarks hremarks, List.map_map]
    · rfl
    · intro r hr
      obtain ⟨v, -, rfl⟩ := List.mem_map.mp hr
      exact ⟨_, _, rfl⟩
  refine ⟨dimension, hdimension, hname, hremarks, hfilter, ?_⟩
  intro keyword hmem
  have hfound : conversionLine keyword ctx.name ctx.name ∈
      (spec.conversions config dimension).map fun v => v.line ctx.name := by
    rw [← hfilter]
    exact List.mem_filter.mpr ⟨hmem, decide_eq_true ⟨_, _, rfl⟩⟩
  obtain ⟨v, hv, hline⟩ := List.mem_map.mp hfound
  obtain ⟨hword, hne⟩ := Spec.name_ne_of_mem_conversions hv
  exact hne ((source_eq_of_conversionLine_eq hword ctx.isWord_name hline).trans hname)

/-- The conversions of the ellipse of a number type inside the common language subset, and the marked struct of one
outside. -/
theorem conversion_operators_ellipse :
    let config : Config := { generalTypes := [.long, .uint, .double] }
    ∃ c ellipse circle, Catalogue.full config = .ok c ∧ SingleLine config.namespaceName ∧
      SingleLine config.binaryWriter ∧ SingleLine config.binaryReader ∧
      c.generate ⟨.ellipse, .long, none⟩ = .ok ellipse ∧ c.generate ⟨.circle, .uint, some 2⟩ = .ok circle ∧
      remarks "EllipseL" (unindentedLines ellipse.text) =
        [⟨true, conversionLine "implicit" "EllipseL" "EllipseUI"⟩,
          ⟨false, conversionLine "explicit" "EllipseL" "EllipseD"⟩,
          ⟨false, conversionLine "implicit" "EllipseL" "CircleL"⟩,
          ⟨true, conversionLine "implicit" "EllipseL" "CircleUI"⟩,
          ⟨false, conversionLine "explicit" "EllipseL" "CircleD"⟩] ∧
      remarks "CircleUI" (unindentedLines circle.text) =
        [⟨true, structLine "CircleUI"⟩, ⟨false, conversionLine "explicit" "CircleUI" "CircleL"⟩,
          ⟨false, conversionLine "explicit" "CircleUI" "CircleD"⟩] := by
  have hsingle : SingleLine "Numerics.Geometry" ∧ SingleLine "System.IO.BinaryWriter" ∧
      SingleLine "System.IO.BinaryReader" := by decide
  obtain ⟨hnamespace, hwriter, hreader⟩ := hsingle
  obtain ⟨d, hd, -, hellipse, -⟩ := @conversion_operators { generalTypes := [.long, .uint, .double] } _
    ⟨.ellipse, .long, none⟩ _ rfl hnamespace hwriter hreader rfl
  obtain ⟨e, he, -, hcircle, -⟩ := @conversion_operators { generalTypes := [.long, .uint, .double] } _
    ⟨.circle, .uint, some 2⟩ _ rfl hnamespace hwriter hreader rfl
  cases hd
  cases he
  exact ⟨_, _, _, rfl, hnamespace, hwriter, hreader, rfl, rfl, hellipse, hcircle⟩

end GeometrySource
