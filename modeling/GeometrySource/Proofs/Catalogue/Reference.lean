import GeometrySource.Proofs.Catalogue.Batch
import GeometrySource.Proofs.Template.Reference

/-!
# What batches refer to

A batch is closed if every shape type in the parameter lists of its files is declared by one of its files. The types that
the templates refer to are declared, except for the spheres that rays refer to: spheres are generated for the general number
types and rays for the real ones. The configuration may bring in further types by the names that it supplies, which nothing
refuses.
-/

namespace GeometrySource

open Declaration Script Text

/-- The words that the names which a configuration supplies may bring into parameter lists: those of the writer and of the
reader, and those in the parameter lists that the namespace itself has behind a line feed. -/
def Config.suppliedTypes (config : Config) : List String :=
  (lines config.namespaceName).tail.flatMap parameterTypes ++ words config.binaryWriter ++ words config.binaryReader

/-- The names of the types that a batch declares. -/
def Batch.typeNames (batch : Batch) : List String :=
  batch.sources.map Source.typeName

/-- Whether every shape type that a batch refers to in a parameter list is one that it declares. -/
def Batch.Closed (batch : Batch) : Prop :=
  ∀ source ∈ batch.sources, Cites (· ∈ batch.typeNames) source.text

namespace Catalogue

/-! ## Files -/

section Files

variable {cited : String → Prop}

/-- What the texts of a nested script refer to is what its print refers to. -/
theorem cites_run_fresh {script : Script} (h : script.Nested) (hcites : EachLine (Cites cited) script) :
    Cites cited (({} : Emitter).run script).text := by
  intro line hline w hw
  rcases Emitter.mem_lines_run_fresh h hline with rfl | ⟨count, text, htext, piece, hpiece, rfl⟩
  · rw [parameterTypes_empty] at hw
    cases hw
  · rw [parameterTypes_tabs_append] at hw
    exact hcites text htext piece hpiece w hw

/-- The line of the namespace refers to what the namespace has behind a line feed. -/
theorem cites_namespace {name : String}
    (h : ∀ w ∈ (lines name).tail.flatMap parameterTypes, IsShapeTypeName w → cited w) :
    Cites cited ("namespace " ++ name) := by
  obtain ⟨head, tail, hlines⟩ := List.exists_cons_of_ne_nil (lines_ne_nil name)
  have hstart : StartsQuiet ("namespace " ++ head) := by simp +decide
  intro line hline w hw
  rw [lines_append (by decide), hlines, List.modifyHead_cons, List.mem_cons] at hline
  rcases hline with rfl | htail
  · rw [parameterTypes_of_startsQuiet hstart] at hw
    cases hw
  · exact h w (hlines ▸ List.mem_flatMap.mpr ⟨line, htail, hw⟩)

/-- Beside its declaration a file refers to what the namespace has behind a line feed. -/
theorem cites_fileScript {ctx : Context} {declaration : Script} (hdeclaration : EachLine (Cites cited) declaration)
    (h : ∀ w ∈ (lines ctx.namespaceName).tail.flatMap parameterTypes, IsShapeTypeName w → cited w) :
    EachLine (Cites cited) (fileScript ctx declaration) := by
  have hquiet : ∀ {text : String}, EndsQuiet text ∧ SingleLine text → Cites cited text := fun htext =>
    (leads_of_endsQuiet htext.1).cites htext.2
  have hempty : Cites cited "" := (names_of_written (.intro (by decide))).cites
  rw [fileScript_eq, eachLine_append, eachLine_lines, eachLine_block]
  refine ⟨?_, hquiet (by decide), hdeclaration, hquiet (by decide)⟩
  simp only [headerLines, List.dropLast_cons_cons, List.dropLast_singleton, List.forall_mem_cons, List.not_mem_nil]
  exact ⟨hquiet (by decide), hquiet (by decide), hquiet (by decide), hquiet (by decide), hempty, cites_namespace h,
    by simp⟩

end Files

/-! ## The types that a batch declares -/

variable {c : Catalogue} {batch : Batch}

/-- The type of a shape for a number type is declared only if the configuration lists the number type for the shape. -/
theorem mem_typesFor_of_mem_typeNames (h : c.generateAll = .ok batch) {s : Shape} {n : Numeric} {d : Nat}
    (hmem : typeName (.shape s) n d ∈ batch.typeNames) : n ∈ c.config.typesFor s := by
  rw [Batch.typeNames, map_typeName_of_generateAll_eq_ok h] at hmem
  obtain ⟨p, hp, hname⟩ := List.mem_map.mp hmem
  obtain ⟨hfamily, hnumeric, -⟩ := eq_of_typeName_eq hname
  rw [← TypeFamily.shape.inj hfamily, ← hnumeric]
  exact (mem_plan_iff.mp hp).2.1

/-- With a template for the shape, its types for all number types that the configuration lists are declared. -/
theorem typeName_mem_typeNames (h : c.generateAll = .ok batch) {s : Shape} (htemplate : c.hasTemplate s = true)
    {n : Numeric} (hn : n ∈ c.config.typesFor s) {d : Nat} (hd : s.isDimensioned = true → d ∈ s.plannedDimensions) :
    typeName (.shape s) n d ∈ batch.typeNames := by
  have hplanned : ∀ {e : Nat}, e ∈ s.plannedDimensions → typeName (.shape s) n e ∈ batch.typeNames := by
    intro e he
    obtain ⟨p, hp, hresolve⟩ := exists_mem_specsOf he n
    obtain ⟨rfl, rfl⟩ := eq_of_mem_specsOf hp
    have hname : declaredName p = typeName (.shape p.shape) p.numeric e := by
      rw [declaredName, hresolve]
      rfl
    rw [Batch.typeNames, map_typeName_of_generateAll_eq_ok h, ← hname]
    exact List.mem_map_of_mem (mem_plan_iff.mpr ⟨htemplate, hn, hp⟩)
  cases hcarries : s.isDimensioned with
  | true => exact hplanned (hd hcarries)
  | false =>
    have hsome : s.plannedDimensions ≠ [] := by cases s <;> decide
    obtain ⟨e, he⟩ := List.exists_mem_of_ne_nil _ hsome
    have hhidden : (TypeFamily.shape s).carriesDimension = false := hcarries
    rw [typeName_congr hhidden n d e]
    exact hplanned he

/-! ## Closed batches -/

/-- What the templates made for the shapes refer to is declared, if every real number type is a general one. -/
theorem references_mem_typeNames (h : c.generateAll = .ok batch) (htemplates : ∀ s, c.template? s = some s.template)
    (hreal : ∀ n ∈ c.config.realTypes, n ∈ c.config.generalTypes) {p : Spec} (hp : p ∈ c.plan) {ctx : Context}
    (hctx : Context.ofSpec c.config p = .ok ctx) :
    ∀ w ∈ p.shape.template.references ctx, w ∈ batch.typeNames := by
  obtain ⟨d, hd, rfl⟩ := Template.exists_of_map_eq_ok hctx
  have hplanned := Spec.mem_plannedDimensions hd
  have hlisted := (mem_plan_iff.mp hp).2.1
  have htemplate : ∀ s, c.hasTemplate s = true := fun s => by rw [hasTemplate, htemplates]; rfl
  have hown : ∀ n ∈ c.config.typesFor p.shape, typeName (.shape p.shape) n d ∈ batch.typeNames := fun n hn =>
    typeName_mem_typeNames h (htemplate _) hn fun _ => hplanned
  have hother : ∀ {s : Shape}, s.isDimensioned = false → ∀ n ∈ c.config.typesFor s,
      typeName (.shape s) n d ∈ batch.typeNames := fun hs n hn =>
    typeName_mem_typeNames h (htemplate _) hn fun hdimensioned => absurd hdimensioned (by rw [hs]; decide)
  intro w hw
  rcases List.mem_append.mp hw with hdeclared | hfurther
  · rcases List.mem_cons.mp hdeclared with rfl | hconverted
    · exact hown _ hlisted
    · obtain ⟨n, hn, rfl⟩ := List.mem_map.mp hconverted
      exact hown n (List.mem_filter.mp hn).1
  · obtain ⟨s, numeric, dimension⟩ := p
    cases s with
    | ellipse =>
      obtain ⟨n, hn, rfl⟩ := List.mem_map.mp hfurther
      exact hother (s := .circle) rfl n hn
    | ray =>
      rcases List.mem_cons.mp hfurther with rfl | hfurther
      · exact hother (s := .plane) rfl _ hlisted
      · rw [List.mem_singleton.mp hfurther]
        exact hother (s := .sphere) rfl _ (hreal _ hlisted)
    | circle | line | plane | polygon | rectangle | sphere => cases hfurther

/-- A batch is closed if every real number type is a general one and the supplied names bring in no other type. -/
theorem closed_of_subset (h : c.generateAll = .ok batch) (htemplates : ∀ s, c.template? s = some s.template)
    (hreal : ∀ n ∈ c.config.realTypes, n ∈ c.config.generalTypes)
    (hsupplied : ∀ w ∈ c.config.suppliedTypes, IsShapeTypeName w → w ∈ batch.typeNames) : batch.Closed := by
  simp only [Config.suppliedTypes, List.mem_append, or_imp, forall_and] at hsupplied
  obtain ⟨⟨hnamespace, hwriter⟩, hreader⟩ := hsupplied
  intro source hsource
  obtain ⟨p, hp, hgenerate⟩ := exists_mem_plan_of_mem_sources h hsource
  obtain ⟨t, ctx, declaration, ht, -, hctx, hscript, rfl⟩ := generate_eq_ok hgenerate
  obtain rfl : p.shape.template = t := Option.some.inj ((htemplates p.shape).symm.trans ht)
  have hreferences := references_mem_typeNames h htemplates hreal hp hctx
  obtain ⟨d, -, rfl⟩ := Template.exists_of_map_eq_ok hctx
  have hdeclaration := Template.cites_script hreferences hwriter hreader hscript
  exact cites_run_fresh (nested_fileScript _ (Template.nested_script hscript)) (cites_fileScript hdeclaration hnamespace)

/-- In a closed batch every shape type in the parameter list of a line is of a number type that the configuration lists for
the shape. -/
theorem mem_typesFor_of_closed (h : c.generateAll = .ok batch) (hclosed : batch.Closed) {p : Spec} (hp : p ∈ c.plan)
    {t : Template} (ht : c.template? p.shape = some t) {ctx : Context} (hctx : Context.ofSpec c.config p = .ok ctx)
    {declaration : Script} (hscript : t.script ctx = .ok declaration) {text : String}
    (htext : .line text ∈ fileScript ctx declaration) {piece : String} (hpiece : piece ∈ lines text) {s : Shape}
    {n : Numeric} {d : Nat} (hmem : typeName (.shape s) n d ∈ parameterTypes piece) : n ∈ c.config.typesFor s := by
  have hne : piece ≠ "" := by
    rintro rfl
    simp at hmem
  obtain ⟨source, hsource, hgenerate⟩ := exists_source_of_mem_plan h hp
  obtain ⟨t', ctx', declaration', ht', -, hctx', hscript', rfl⟩ := generate_eq_ok hgenerate
  obtain rfl : t = t' := Option.some.inj (ht.symm.trans ht')
  obtain rfl : ctx = ctx' := Except.ok.inj (hctx.symm.trans hctx')
  obtain rfl : declaration = declaration' := Except.ok.inj (hscript.symm.trans hscript')
  obtain ⟨count, hline⟩ := Emitter.exists_mem_lines_run_fresh
    (nested_fileScript ctx (Template.nested_script hscript)) htext hpiece hne
  rw [← parameterTypes_tabs_append count] at hmem
  exact mem_typesFor_of_mem_typeNames h (hclosed _ hsource _ hline _ hmem ⟨s, n, d, rfl⟩)

/-- Every line of a declaration is a line of its file. -/
theorem mem_fileScript {ctx : Context} {declaration : Script} {text : String} (h : .line text ∈ declaration) :
    .line text ∈ fileScript ctx declaration :=
  List.mem_append_left _ (List.mem_append_right _ h)

/-- A shape that has one dimension of its own is planned for every number type that the configuration lists. -/
theorem mem_plan_of_not_dimensioned {s : Shape} (hs : s.isDimensioned = false) {t : Template}
    (ht : c.template? s = some t) {n : Numeric} (hn : n ∈ c.config.typesFor s) : ⟨s, n, none⟩ ∈ c.plan := by
  refine mem_plan_iff.mpr ⟨by rw [hasTemplate, ht]; rfl, hn, ?_⟩
  rw [specsOf, hs]
  exact List.mem_singleton_self _

/-- In a closed batch with rays every real number type is a general one. -/
theorem subset_of_closed (h : c.generateAll = .ok batch) (htemplate : c.template? .ray = some .ray)
    (hclosed : batch.Closed) : ∀ n ∈ c.config.realTypes, n ∈ c.config.generalTypes := by
  intro n hn
  have hp : ⟨.ray, n, none⟩ ∈ c.plan := mem_plan_of_not_dimensioned rfl htemplate hn
  obtain ⟨-, ctx, -, hctx, -⟩ := generate_of_mem_plan hp
  obtain ⟨-, -, rfl⟩ := of_ofSpec_eq_ok hctx
  have hmem : .line (Template.Ray.sphereHead ctx) ∈ fileScript ctx (Template.Ray.script ctx) :=
    mem_fileScript (Template.Ray.sphereHead_mem_script ctx)
  refine mem_typesFor_of_closed (s := .sphere) (d := ctx.dimension) h hclosed hp htemplate hctx rfl hmem
    (lines_of_singleLine (Template.Ray.singleLine_sphereHead ctx) ▸ List.mem_singleton_self _) ?_
  rw [Template.Ray.parameterTypes_sphereHead]
  exact List.mem_cons_of_mem _ (List.mem_singleton_self _)

/-- Of a valid configuration the batch with all templates exists. It is closed only if every real number type is a general
one, for the sake of the spheres that rays meet; and then it is closed, provided that the supplied names bring in no shape
types but declared ones. -/
theorem closed_references {config : Config} (h : config.validate = .ok ()) :
    ∃ c batch, full config = .ok c ∧ c.generateAll = .ok batch ∧
      (batch.Closed → ∀ n ∈ config.realTypes, n ∈ config.generalTypes) ∧
      ((∀ n ∈ config.realTypes, n ∈ config.generalTypes) →
        (∀ w ∈ config.suppliedTypes, IsShapeTypeName w → w ∈ batch.typeNames) → batch.Closed) := by
  obtain ⟨c, hc⟩ := exists_full h
  obtain ⟨rfl, htemplates⟩ := full_eq_ok hc
  obtain ⟨batch, hbatch⟩ := exists_batch (c := c) (by rw [htemplates]; decide)
  exact ⟨c, batch, hc, hbatch, subset_of_closed hbatch (htemplates .ray), closed_of_subset hbatch htemplates⟩

/-- With a real number type that is a general one as well the batch is closed. -/
theorem closed_references_double :
    let config : Config := { generalTypes := [.int, .double], realTypes := [.double] }
    config.validate = .ok () ∧ (∀ n ∈ config.realTypes, n ∈ config.generalTypes) ∧
      ∃ c batch, full config = .ok c ∧ c.generateAll = .ok batch ∧ batch.Closed := by
  have hvalid : ({ generalTypes := [.int, .double], realTypes := [.double] } : Config).validate = .ok () := rfl
  have hsupplied : ∀ w ∈ Config.suppliedTypes { generalTypes := [.int, .double], realTypes := [.double] },
      beginsLikeShape w = false := by
    decide
  obtain ⟨c, batch, hc, hbatch, -, hclosed⟩ := closed_references hvalid
  exact ⟨hvalid, by decide, c, batch, hc, hbatch, hclosed (by decide) fun w hw hshape =>
    absurd hshape.beginsLikeShape (by rw [hsupplied w hw]; decide)⟩

/-! ## Batches that are not closed -/

/-- Whether a configuration is valid and the batch of all templates is not closed. -/
def HasOpenBatch (config : Config) : Prop :=
  config.validate = .ok () ∧ ∃ c batch, full config = .ok c ∧ c.generateAll = .ok batch ∧ ¬batch.Closed

/-- The batch of all templates is not closed if no batch with these templates is. -/
theorem hasOpenBatch_of_forall {config : Config} (h : config.validate = .ok ())
    (hopen : ∀ (c : Catalogue) (batch : Batch), c.config = config → (∀ s, c.template? s = some s.template) →
      c.generateAll = .ok batch → ¬batch.Closed) : HasOpenBatch config := by
  obtain ⟨c, hc⟩ := exists_full h
  obtain ⟨hconfig, htemplates⟩ := full_eq_ok hc
  obtain ⟨batch, hbatch⟩ := exists_batch (c := c) (by rw [htemplates]; decide)
  exact ⟨h, c, batch, hc, hbatch, hopen c batch hconfig htemplates hbatch⟩

/-- Rays of a number type without spheres. -/
theorem hasOpenBatch_ray : HasOpenBatch { generalTypes := [.double], realTypes := [.float] } := by
  refine hasOpenBatch_of_forall rfl fun c batch hconfig htemplates hbatch hclosed => ?_
  have hsubset := subset_of_closed hbatch (htemplates .ray) hclosed
  rw [hconfig] at hsubset
  exact absurd hsubset (by decide)

/-- A writer that is called like a sphere of another number type. -/
theorem hasOpenBatch_writer :
    HasOpenBatch { generalTypes := [.double], realTypes := [.double], binaryWriter := "SphereB" } := by
  refine hasOpenBatch_of_forall rfl fun c batch hconfig htemplates hbatch hclosed => ?_
  let ctx : Context := ⟨⟨.circle, .double, none⟩, 2, .double,
    { generalTypes := [.double], realTypes := [.double], binaryWriter := "SphereB" }⟩
  have hlisted : Numeric.double ∈ c.config.typesFor .circle := by rw [hconfig]; decide
  have hctx : Context.ofSpec c.config ⟨.circle, .double, none⟩ = .ok ctx := by rw [hconfig]; rfl
  have hsingle : SingleLine (writeHead ctx) := by decide
  have hhead : .line (writeHead ctx) ∈ Template.Round.script Template.Round.circle ctx := by
    simp [Template.Round.script, outline_eq, block_eq, derivedFunctions, binary, region, binaryMembers_eq, method]
  have hrefers : typeName (.shape .sphere) .byte 3 ∈ parameterTypes (writeHead ctx) := by decide
  have hsphere := mem_typesFor_of_closed hbatch hclosed
    (mem_plan_of_not_dimensioned rfl (htemplates .circle) hlisted) (htemplates .circle) hctx rfl (mem_fileScript hhead)
    (lines_of_singleLine hsingle ▸ List.mem_singleton_self _) hrefers
  rw [hconfig] at hsphere
  exact absurd hsphere (by decide)

/-- A namespace with a declaration behind a line feed. -/
theorem hasOpenBatch_namespace :
    HasOpenBatch { namespaceName := "Shapes\npublic delegate void Visit(SphereB sphere)", generalTypes := [.double],
                   realTypes := [.double] } := by
  refine hasOpenBatch_of_forall rfl fun c batch hconfig htemplates hbatch hclosed => ?_
  let ctx : Context := ⟨⟨.circle, .double, none⟩, 2, .double,
    { namespaceName := "Shapes\npublic delegate void Visit(SphereB sphere)", generalTypes := [.double],
      realTypes := [.double] }⟩
  have hlisted : Numeric.double ∈ c.config.typesFor .circle := by rw [hconfig]; decide
  have hctx : Context.ofSpec c.config ⟨.circle, .double, none⟩ = .ok ctx := by rw [hconfig]; rfl
  have hline : .line ("namespace " ++ ctx.namespaceName) ∈
      fileScript ctx (Template.Round.script Template.Round.circle ctx) := by
    simp [fileScript, openFile]
  have hpiece : "public delegate void Visit(SphereB sphere)" ∈ lines ("namespace " ++ ctx.namespaceName) := by
    decide
  have hrefers : typeName (.shape .sphere) .byte 3 ∈ parameterTypes "public delegate void Visit(SphereB sphere)" := by
    decide
  have hsphere := mem_typesFor_of_closed hbatch hclosed
    (mem_plan_of_not_dimensioned rfl (htemplates .circle) hlisted) (htemplates .circle) hctx rfl hline hpiece hrefers
  rw [hconfig] at hsphere
  exact absurd hsphere (by decide)

/-- Under some valid configurations the batch of all templates refers to a sphere that it does not declare: to that of a
real number type which is not a general one, to one that the writer is called after, or to one in a parameter list that the
namespace has behind a line feed. -/
theorem open_batches :
    HasOpenBatch { generalTypes := [.double], realTypes := [.float] } ∧
      HasOpenBatch { generalTypes := [.double], realTypes := [.double], binaryWriter := "SphereB" } ∧
      HasOpenBatch { namespaceName := "Shapes\npublic delegate void Visit(SphereB sphere)", generalTypes := [.double],
                     realTypes := [.double] } :=
  ⟨hasOpenBatch_ray, hasOpenBatch_writer, hasOpenBatch_namespace⟩

end Catalogue

end GeometrySource
