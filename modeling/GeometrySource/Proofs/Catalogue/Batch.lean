import GeometrySource.Proofs.Catalogue.Generate
import GeometrySource.Proofs.Catalogue.Plan
import GeometrySource.Proofs.Naming.TypeName
import Mathlib.Data.List.Forall2

/-!
# Batches

Only the templates with a size refuse a context, and the only planned dimension without a size is that of the
one-dimensional lines. So a batch depends on the template of lines alone: either it gives the file of every planned spec, in
the plan's order and under names of its own, or all that goes wrong is the size of those lines.
-/

namespace GeometrySource

/-! ## Refusals -/

/-- A dimension is refused exactly if it has no size. -/
theorem sizeAxes_eq_error_iff {dimension : Nat} {e : Error} :
    sizeAxes dimension = .error e ↔
      (dimension ≠ 2 ∧ dimension ≠ 3) ∧ e = .unsupportedDimension .sizeAxes dimension := by
  unfold sizeAxes
  split
  · rename_i hsize
    simp only [reduceCtorEq, false_iff, not_and]
    rintro ⟨htwo, hthree⟩
    exact absurd hsize (not_or.mpr ⟨htwo, hthree⟩)
  · rename_i hsize
    rw [Except.error.injEq, not_or] at *
    exact ⟨fun he => ⟨hsize, he.symm⟩, fun he => he.2.symm⟩

/-- The owner of the size axes is told from the shapes by its name. -/
theorem DimensionOwner.name_eq_iff {owner : DimensionOwner} : owner.name = "size components" ↔ owner = .sizeAxes := by
  cases owner with
  | shape s => cases s <;> decide
  | sizeAxes => decide

/-- What is made of a result is an error exactly if the result is. -/
theorem map_eq_error_iff {α β : Type} {f : α → β} {result : Except Error α} {e : Error} :
    result.map f = .error e ↔ result = .error e := by
  cases result <;> simp [Except.map]

namespace Template

/-- The templates of shapes with a size refuse the dimensions without one, and nothing else is refused. -/
theorem script_eq_error_iff {t : Template} {ctx : Context} {e : Error} :
    t.script ctx = .error e ↔
      (t = .ellipse ∨ t = .rectangle) ∧ (ctx.dimension ≠ 2 ∧ ctx.dimension ≠ 3) ∧
        e = .unsupportedDimension .sizeAxes ctx.dimension := by
  cases t with
  | ellipse => simp [script, Ellipse.script, map_eq_error_iff, sizeAxes_eq_error_iff]
  | rectangle => simp [script, Rectangle.script, map_eq_error_iff, sizeAxes_eq_error_iff]
  | circle | line | plane | polygon | ray | sphere => simp [script]

end Template

namespace Catalogue

/-! ## Registrations -/

/-- Registers for each shape of a list the template beside it, one after the other. -/
def registerEach (c : Catalogue) (registrations : List (Shape × Template)) : Catalogue :=
  registrations.foldl (fun c r => c.register r.1 r.2) c

/-- The template that a list names last for a shape. -/
def lastFor? (registrations : List (Shape × Template)) (s : Shape) : Option Template :=
  (registrations.reverse.find? fun r => r.1 = s).map Prod.snd

/-- Registering keeps the configuration. -/
@[simp]
theorem config_registerEach (c : Catalogue) (registrations : List (Shape × Template)) :
    (c.registerEach registrations).config = c.config := by
  induction registrations generalizing c with
  | nil => rfl
  | cons r rest ih => exact ih (c.register r.1 r.2)

/-- The template registered last counts, and without one the template that was there. -/
theorem template?_registerEach (c : Catalogue) (registrations : List (Shape × Template)) (s : Shape) :
    (c.registerEach registrations).template? s = (lastFor? registrations s).or (c.template? s) := by
  induction registrations generalizing c with
  | nil => rfl
  | cons r rest ih =>
    rw [registerEach, List.foldl_cons, ← registerEach, ih, lastFor?, lastFor?, List.reverse_cons, List.find?_append]
    by_cases hs : r.1 = s
    · subst hs
      cases (rest.reverse.find? fun other => other.1 = r.1) <;> simp
    · rw [template?_register_of_ne c r.2 (Ne.symm hs)]
      cases (rest.reverse.find? fun other => other.1 = s) <;> simp [hs]

/-! ## The files of a plan -/

variable {c : Catalogue}

/-- The entry of a plan is made by the template of its shape. -/
theorem generate_of_mem_plan {p : Spec} (h : p ∈ c.plan) :
    ∃ t ctx, c.template? p.shape = some t ∧ Context.ofSpec c.config p = .ok ctx ∧
      c.generate p = (t.script ctx).map (sourceFor p ctx) := by
  obtain ⟨htemplate, -, hspec⟩ := mem_plan_iff.mp h
  obtain ⟨t, ht⟩ := Option.isSome_iff_exists.mp htemplate
  obtain ⟨d, -, hd⟩ := resolve_of_mem_specsOf hspec
  have hctx : ∃ ctx, Context.ofSpec c.config p = .ok ctx := by
    rw [Context.ofSpec, hd]
    exact ⟨_, rfl⟩
  obtain ⟨ctx, hctx⟩ := hctx
  have hprepare : c.prepare p = .ok (t, ctx) := by
    simp only [prepare, ht, validate_of_mem_plan h, hctx, bind, Except.bind]
  refine ⟨t, ctx, ht, hctx, ?_⟩
  rw [generate_eq, hprepare]
  rfl

/-- A planned dimension without a size is that of the one-dimensional lines. -/
theorem line_of_mem_plannedDimensions {s : Shape} {d : Nat} (h : d ∈ s.plannedDimensions) (htwo : d ≠ 2)
    (hthree : d ≠ 3) : s = .line ∧ d = 1 := by
  have hall : ∀ s ∈ Shape.all, ∀ d ∈ s.plannedDimensions, d = 2 ∨ d = 3 ∨ s = .line ∧ d = 1 := by decide
  rcases hall s s.mem_all d h with rfl | rfl | hline
  · exact absurd rfl htwo
  · exact absurd rfl hthree
  · exact hline

/-- An entry of a plan is refused exactly if it is a one-dimensional line and lines have a template with a size. -/
theorem generate_eq_error_iff {p : Spec} (h : p ∈ c.plan) {e : Error} :
    c.generate p = .error e ↔
      (p.shape = .line ∧ p.resolve = .ok 1) ∧
        (c.template? .line = some .ellipse ∨ c.template? .line = some .rectangle) ∧
          e = .unsupportedDimension .sizeAxes 1 := by
  obtain ⟨t, ctx, ht, hctx, hgenerate⟩ := generate_of_mem_plan h
  obtain ⟨hresolve, -⟩ := of_ofSpec_eq_ok hctx
  rw [hgenerate, map_eq_error_iff, Template.script_eq_error_iff]
  constructor
  · rintro ⟨hsized, ⟨htwo, hthree⟩, rfl⟩
    obtain ⟨hline, hone⟩ := line_of_mem_plannedDimensions (Spec.mem_plannedDimensions hresolve) htwo hthree
    rw [hline] at ht
    rw [hone] at hresolve ⊢
    rw [ht, Option.some.injEq, Option.some.injEq]
    exact ⟨⟨hline, hresolve⟩, hsized, rfl⟩
  · rintro ⟨⟨hline, hone⟩, hsized, rfl⟩
    rw [hline] at ht
    rw [ht, Option.some.injEq, Option.some.injEq] at hsized
    have hdimension := Except.ok.inj (hone.symm.trans hresolve)
    rw [← hdimension]
    exact ⟨hsized, by decide, rfl⟩

/-- Where lines have a template, a one-dimensional line is planned. -/
theorem exists_line_mem_plan (h : c.hasTemplate .line = true) :
    ∃ p ∈ c.plan, p.shape = .line ∧ p.resolve = .ok 1 := by
  obtain ⟨n, hn⟩ := List.exists_mem_of_ne_nil _ (Config.typesFor_ne_nil c.valid .line)
  have haccepted : c.validate ⟨.line, n, some 1⟩ = .ok () := validate_eq_ok_iff.mpr ⟨hn, 1, rfl⟩
  obtain ⟨p, hp, hshape, -, hresolve⟩ := @exists_mem_plan c ⟨.line, n, some 1⟩ h haccepted
  exact ⟨p, hp, hshape, hresolve⟩

/-! ## Names -/

/-- The name of the type that a spec asks for. -/
def declaredName (p : Spec) : String :=
  typeName (.shape p.shape) p.numeric (p.resolve.toOption.getD 0)

/-- A file is named for its spec. -/
theorem typeName_of_generate_eq_ok {p : Spec} {source : Source} (h : c.generate p = .ok source) :
    source.typeName = declaredName p := by
  obtain ⟨t, ctx, declaration, -, -, hctx, -, rfl⟩ := generate_eq_ok h
  obtain ⟨hresolve, hshape, hnumeric⟩ := of_ofSpec_eq_ok hctx
  rw [declaredName, hresolve, sourceFor, Context.name, Context.nameFor, Context.shapeName, hshape, hnumeric]
  rfl

/-- A shape that does not show its dimension has one planned dimension only. -/
theorem eq_of_mem_plannedDimensions {s : Shape} (h : s.isDimensioned = false) {d e : Nat}
    (hd : d ∈ s.plannedDimensions) (he : e ∈ s.plannedDimensions) : d = e := by
  rw [Shape.plannedDimensions, h, if_neg Bool.false_ne_true, Option.mem_toList] at hd he
  exact Option.mem_unique hd he

/-- Specs that ask for types of one name ask for the same shape, number type and dimension. -/
theorem request_eq_of_declaredName_eq {p q : Spec} {d e : Nat} (hp : p.resolve = .ok d) (hq : q.resolve = .ok e)
    (h : declaredName p = declaredName q) : p.shape = q.shape ∧ p.numeric = q.numeric ∧ p.resolve = q.resolve := by
  rw [declaredName, declaredName, hp, hq] at h
  obtain ⟨hfamily, hnumeric, hdimension⟩ := eq_of_typeName_eq h
  have hshape := TypeFamily.shape.inj hfamily
  refine ⟨hshape, hnumeric, ?_⟩
  rw [hp, hq]
  cases hcarries : p.shape.isDimensioned with
  | true => exact congrArg Except.ok (hdimension hcarries)
  | false =>
    exact congrArg Except.ok (eq_of_mem_plannedDimensions hcarries (Spec.mem_plannedDimensions hp)
      (hshape ▸ Spec.mem_plannedDimensions hq))

/-- No two entries of a plan ask for types of one name. -/
theorem eq_of_declaredName_eq {p q : Spec} (hp : p ∈ c.plan) (hq : q ∈ c.plan)
    (h : declaredName p = declaredName q) : p = q := by
  obtain ⟨d, -, hpd⟩ := resolve_of_mem_specsOf (mem_plan_iff.mp hp).2.2
  obtain ⟨e, -, hqe⟩ := resolve_of_mem_specsOf (mem_plan_iff.mp hq).2.2
  obtain ⟨hshape, hnumeric, hresolve⟩ := request_eq_of_declaredName_eq hpd hqe h
  exact eq_of_mem_plan hp hq hshape hnumeric hresolve

/-- Files of one name are files for the same shape, number type and dimension, whichever catalogues made them. -/
theorem request_eq_of_typeName_eq {b : Catalogue} {p q : Spec} {source other : Source} (hp : b.generate p = .ok source)
    (hq : c.generate q = .ok other) (h : source.typeName = other.typeName) :
    p.shape = q.shape ∧ p.numeric = q.numeric ∧ p.resolve = q.resolve := by
  rw [typeName_of_generate_eq_ok hp, typeName_of_generate_eq_ok hq] at h
  obtain ⟨_, _, _, -, -, hpctx, -, -⟩ := generate_eq_ok hp
  obtain ⟨_, _, _, -, -, hqctx, -, -⟩ := generate_eq_ok hq
  exact request_eq_of_declaredName_eq (of_ofSpec_eq_ok hpctx).1 (of_ofSpec_eq_ok hqctx).1 h

/-! ## The whole batch -/

/-- A list of outcomes has a result exactly if each of them has, and then it has theirs in order. -/
theorem mapM_result_eq_ok_iff {outcomes : List (Outcome Source)} {sources : List Source} :
    outcomes.mapM Outcome.result = .ok sources ↔
      List.Forall₂ (fun outcome source => outcome.result = .ok source) outcomes sources := by
  induction outcomes generalizing sources with
  | nil => cases sources <;> simp [pure, Except.pure]
  | cons outcome rest ih =>
    rw [List.mapM_cons]
    cases hresult : outcome.result with
    | error e => cases sources <;> simp [bind, Except.bind, hresult]
    | ok source =>
      cases hrest : rest.mapM Outcome.result with
      | error e => cases sources <;> simp [bind, Except.bind, ← ih, hrest, hresult]
      | ok others => cases sources <;> simp [bind, Except.bind, pure, Except.pure, ← ih, hrest, hresult]

/-- A list of outcomes has the error of one of them, if it has no result. -/
theorem exists_of_mapM_result_eq_error {outcomes : List (Outcome Source)} {e : Error}
    (h : outcomes.mapM Outcome.result = .error e) : ∃ outcome ∈ outcomes, outcome.result = .error e := by
  induction outcomes with
  | nil => cases h
  | cons outcome rest ih =>
    rw [List.mapM_cons] at h
    cases hresult : outcome.result with
    | error first =>
      rw [hresult] at h
      cases h
      exact ⟨outcome, List.mem_cons_self, hresult⟩
    | ok source =>
      cases hrest : rest.mapM Outcome.result with
      | error later =>
        rw [hresult, hrest] at h
        cases h
        obtain ⟨found, hmem, hfound⟩ := ih hrest
        exact ⟨found, List.mem_cons_of_mem _ hmem, hfound⟩
      | ok others =>
        rw [hresult, hrest] at h
        cases h

/-- A batch holds the files of the planned specs, in the plan's order. -/
theorem forall₂_of_generateAll_eq_ok {batch : Batch} (h : c.generateAll = .ok batch) :
    List.Forall₂ (fun p source => c.generate p = .ok source) c.plan batch.sources := by
  obtain ⟨sources, hsources, rfl⟩ := Template.exists_of_map_eq_ok h
  rw [mapM_result_eq_ok_iff, planOutcomes, List.forall₂_map_left_iff] at hsources
  exact hsources

/-- Every planned spec has a file in the batch. -/
theorem exists_source_of_mem_plan {batch : Batch} (h : c.generateAll = .ok batch) {p : Spec} (hp : p ∈ c.plan) :
    ∃ source ∈ batch.sources, c.generate p = .ok source := by
  have hall := forall₂_of_generateAll_eq_ok h
  obtain ⟨i, hi, rfl⟩ := List.getElem_of_mem hp
  have hi' : i < batch.sources.length := hall.length_eq ▸ hi
  exact ⟨batch.sources[i], List.getElem_mem hi', hall.get hi hi'⟩

/-- Every file of a batch is that of an entry of the plan. -/
theorem exists_mem_plan_of_mem_sources {batch : Batch} (h : c.generateAll = .ok batch) {source : Source}
    (hsource : source ∈ batch.sources) : ∃ p ∈ c.plan, c.generate p = .ok source := by
  have hall := forall₂_of_generateAll_eq_ok h
  obtain ⟨i, hi, rfl⟩ := List.getElem_of_mem hsource
  have hi' : i < c.plan.length := hall.length_eq ▸ hi
  exact ⟨c.plan[i], List.getElem_mem hi', hall.get hi' hi⟩

/-- The names of a batch are those of the planned specs. -/
theorem map_typeName_of_generateAll_eq_ok {batch : Batch} (h : c.generateAll = .ok batch) :
    batch.sources.map Source.typeName = c.plan.map declaredName := by
  have hnames : List.Forall₂ (· = ·) (batch.sources.map Source.typeName) (c.plan.map declaredName) := by
    rw [List.forall₂_map_left_iff, List.forall₂_map_right_iff]
    exact ((forall₂_of_generateAll_eq_ok h).imp fun p source hp => typeName_of_generate_eq_ok hp).flip
  rwa [List.forall₂_eq_eq_eq] at hnames

/-- No two files of a batch have one name. -/
theorem nodup_map_typeName {batch : Batch} (h : c.generateAll = .ok batch) :
    (batch.sources.map Source.typeName).Nodup := by
  rw [map_typeName_of_generateAll_eq_ok h]
  exact (nodup_map_place c).of_map.map_on fun p hp q hq => eq_of_declaredName_eq hp hq

/-- A batch is refused exactly if lines have a template with a size. -/
theorem generateAll_eq_error_iff {e : Error} :
    c.generateAll = .error e ↔
      (c.template? .line = some .ellipse ∨ c.template? .line = some .rectangle) ∧
        e = .unsupportedDimension .sizeAxes 1 := by
  have hforward : ∀ {e : Error}, c.generateAll = .error e →
      (c.template? .line = some .ellipse ∨ c.template? .line = some .rectangle) ∧
        e = .unsupportedDimension .sizeAxes 1 := by
    intro e h
    obtain ⟨outcome, hmem, hresult⟩ := exists_of_mapM_result_eq_error (map_eq_error_iff.mp h)
    obtain ⟨p, hp, rfl⟩ := List.mem_map.mp hmem
    exact ((generate_eq_error_iff hp).mp hresult).2
  refine ⟨hforward, ?_⟩
  rintro ⟨hsized, rfl⟩
  cases hall : c.generateAll with
  | error other => rw [(hforward hall).2]
  | ok batch =>
    have htemplate : c.hasTemplate .line = true := by
      rcases hsized with h | h <;> simp [hasTemplate, h]
    obtain ⟨p, hp, hline⟩ := exists_line_mem_plan htemplate
    obtain ⟨source, -, hsource⟩ := exists_source_of_mem_plan hall hp
    rw [(generate_eq_error_iff hp).mpr ⟨hline, hsized, rfl⟩] at hsource
    cases hsource

/-- A batch that is not refused exists. -/
theorem exists_batch (h : ¬(c.template? .line = some .ellipse ∨ c.template? .line = some .rectangle)) :
    ∃ batch, c.generateAll = .ok batch := by
  cases hall : c.generateAll with
  | error e => exact absurd (generateAll_eq_error_iff.mp hall).1 h
  | ok batch => exact ⟨batch, rfl⟩

/-- What becomes of a batch, after any registrations:
1. It is refused exactly if the template that was registered last for lines is that of the ellipse or that of the
   rectangle, and then for a size of dimension one.
2. Whichever planned spec is refused, it is refused as the batch is.
3. Otherwise the batch has one file for every planned spec, in the plan's order, and no two of one name.
4. With the templates made for the shapes it is never refused. -/
theorem batch_outcome (c : Catalogue) (registrations : List (Shape × Template)) :
    let made := c.registerEach registrations
    let last := (lastFor? registrations .line).or (c.template? .line)
    (∀ e, made.generateAll = .error e ↔
        (last = some .ellipse ∨ last = some .rectangle) ∧
          ∃ owner : DimensionOwner, owner.name = "size components" ∧ e = .unsupportedDimension owner 1) ∧
      (∀ p ∈ made.plan, ∀ e, made.generate p = .error e → made.generateAll = .error e) ∧
      (∀ batch, made.generateAll = .ok batch →
        List.Forall₂ (fun p source => made.generate p = .ok source) made.plan batch.sources ∧
          (batch.sources.map Source.typeName).Nodup) ∧
      ∃ complete batch, full c.config = .ok complete ∧ complete.generateAll = .ok batch := by
  intro made last
  have hlast : made.template? .line = last := template?_registerEach c registrations .line
  refine ⟨fun e => ?_, fun p hp e h => ?_, fun batch h => ?_, ?_⟩
  · simp only [generateAll_eq_error_iff, hlast, DimensionOwner.name_eq_iff, exists_eq_left]
  · exact generateAll_eq_error_iff.mpr ((generate_eq_error_iff hp).mp h).2
  · exact ⟨forall₂_of_generateAll_eq_ok h, nodup_map_typeName h⟩
  · obtain ⟨complete, hcomplete⟩ := exists_full c.valid
    obtain ⟨batch, hbatch⟩ := exists_batch (c := complete) (by simp [(full_eq_ok hcomplete).2, Shape.template])
    exact ⟨complete, batch, hcomplete, hbatch⟩

/-- Two batches over one configuration: in the first the template of the line is replaced by that of the ellipse, and the
one-dimensional line is refused; in the second it is the other way around. -/
theorem batch_outcome_line :
    let config : Config := { generalTypes := [.int], realTypes := [.double] }
    let refused := [(Shape.line, Template.line), (.line, .ellipse)]
    let accepted := [(Shape.line, Template.ellipse), (.ray, .rectangle), (.line, .plane)]
    ∃ bare, empty config = .ok bare ∧
      ((bare.registerEach refused).generate ⟨.line, .int, some 1⟩ = .error (.unsupportedDimension .sizeAxes 1) ∧
        (bare.registerEach refused).generateAll = .error (.unsupportedDimension .sizeAxes 1)) ∧
      ∃ batch, (bare.registerEach accepted).generateAll = .ok batch ∧
        List.Forall₂ (fun p source => (bare.registerEach accepted).generate p = .ok source)
          (bare.registerEach accepted).plan batch.sources ∧
        (batch.sources.map Source.typeName).Nodup := by
  refine ⟨_, rfl, ⟨rfl, (batch_outcome _ _).2.1 ⟨.line, .int, some 1⟩ (by decide) _ rfl⟩, ?_⟩
  obtain ⟨batch, hbatch⟩ := exists_batch
    (c := registerEach ⟨{ generalTypes := [.int], realTypes := [.double] }, fun _ => none, rfl⟩
      [(.line, .ellipse), (.ray, .rectangle), (.line, .plane)]) (by decide)
  exact ⟨batch, hbatch, (batch_outcome _ _).2.2.1 batch hbatch⟩

end Catalogue

end GeometrySource
