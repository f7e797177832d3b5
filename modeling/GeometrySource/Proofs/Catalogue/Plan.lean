import GeometrySource.Catalogue.Basic
import GeometrySource.Proofs.Config.Validation
import Mathlib.Data.Prod.Lex

/-!
# Plans

A plan holds what can be asked for, and holds it once: every entry has a template and is not refused, every spec that has a
template and is not refused has exactly one entry, and the entries stand in the order of their places, which go by shape,
by number type and by dimension.
-/

namespace GeometrySource

/-! ## Dimensions -/

namespace Shape

/-- The dimensions that a spec of the shape can ask for: the listed ones, or else the implicit one. -/
def plannedDimensions (s : Shape) : List Nat :=
  if s.isDimensioned then s.dimensions else s.implicitDimension.toList

/-- An implicit dimension is planned. -/
theorem implicit_mem_plannedDimensions {s : Shape} {d : Nat} (h : s.implicitDimension = some d) :
    d ∈ s.plannedDimensions := by
  cases s <;> cases h <;> decide

/-- A listed dimension is planned. -/
theorem listed_mem_plannedDimensions {s : Shape} {d : Nat} (h : d ∈ s.dimensions) : d ∈ s.plannedDimensions := by
  have hdimensioned : s.isDimensioned = true := by
    rw [isDimensioned, Bool.not_eq_true', List.isEmpty_eq_false_iff]
    exact List.ne_nil_of_mem h
  rwa [plannedDimensions, if_pos hdimensioned]

/-- The planned dimensions go up. -/
theorem plannedDimensions_increasing (s : Shape) : s.plannedDimensions.Pairwise (· < ·) := by
  cases s <;> decide

end Shape

/-- A spec that is not refused asks for a planned dimension. -/
theorem Spec.mem_plannedDimensions {spec : Spec} {d : Nat} (h : spec.resolve = .ok d) :
    d ∈ spec.shape.plannedDimensions := by
  unfold resolve at h
  split at h
  · rename_i found hfound
    obtain rfl := Except.ok.inj h
    unfold Shape.dimensionFor? at hfound
    split at hfound
    · exact Shape.implicit_mem_plannedDimensions hfound
    · split at hfound
      · rename_i hgiven
        obtain rfl := Option.some.inj hfound
        rcases hgiven with himplicit | hlisted
        · exact Shape.implicit_mem_plannedDimensions himplicit
        · exact Shape.listed_mem_plannedDimensions hlisted
      · cases hfound
  · cases h

namespace Catalogue

/-! ## The specs of a shape for a number type -/

/-- The specs of a shape for a number type are of that shape and number type. -/
theorem eq_of_mem_specsOf {s : Shape} {n : Numeric} {p : Spec} (h : p ∈ specsOf s n) : p.shape = s ∧ p.numeric = n := by
  unfold specsOf at h
  split at h
  · obtain ⟨d, -, rfl⟩ := List.mem_map.mp h
    exact ⟨rfl, rfl⟩
  · rw [List.mem_singleton.mp h]
    exact ⟨rfl, rfl⟩

/-- They ask for the planned dimensions, in order. -/
theorem map_resolve_specsOf (s : Shape) (n : Numeric) :
    (specsOf s n).map Spec.resolve = s.plannedDimensions.map .ok := by
  cases s <;> rfl

/-- Each of them asks for a planned dimension. -/
theorem resolve_of_mem_specsOf {s : Shape} {n : Numeric} {p : Spec} (h : p ∈ specsOf s n) :
    ∃ d ∈ s.plannedDimensions, p.resolve = .ok d := by
  have hmem : p.resolve ∈ (specsOf s n).map Spec.resolve := List.mem_map_of_mem h
  rw [map_resolve_specsOf] at hmem
  obtain ⟨d, hd, hresolve⟩ := List.mem_map.mp hmem
  exact ⟨d, hd, hresolve.symm⟩

/-- For each planned dimension there is one of them. -/
theorem exists_mem_specsOf {s : Shape} {d : Nat} (h : d ∈ s.plannedDimensions) (n : Numeric) :
    ∃ p ∈ specsOf s n, p.resolve = .ok d := by
  have hmem : (.ok d : Except Error Nat) ∈ (specsOf s n).map Spec.resolve := by
    rw [map_resolve_specsOf]
    exact List.mem_map_of_mem h
  exact List.mem_map.mp hmem

/-! ## Entries of a plan -/

variable {c : Catalogue}

/-- The entries of a plan are the specs of the shapes that have a template, for the number types of the shape. -/
theorem mem_plan_iff {p : Spec} :
    p ∈ c.plan ↔ c.hasTemplate p.shape = true ∧ p.numeric ∈ c.config.typesFor p.shape ∧ p ∈ specsOf p.shape p.numeric := by
  simp only [plan, List.mem_flatMap, List.mem_filter]
  constructor
  · rintro ⟨s, ⟨-, hs⟩, n, hn, hp⟩
    obtain ⟨rfl, rfl⟩ := eq_of_mem_specsOf hp
    exact ⟨hs, hn, hp⟩
  · rintro ⟨hs, hn, hp⟩
    exact ⟨p.shape, ⟨p.shape.mem_all, hs⟩, p.numeric, hn, hp⟩

/-- A spec is accepted exactly if the configuration lists its number type for its shape and its dimension is one of the
shape. -/
theorem validate_eq_ok_iff {spec : Spec} :
    c.validate spec = .ok () ↔ spec.numeric ∈ c.config.typesFor spec.shape ∧ ∃ d, spec.resolve = .ok d := by
  unfold validate
  by_cases hn : spec.numeric ∈ c.config.typesFor spec.shape
  · rw [if_pos hn]
    cases spec.resolve with
    | error error => simp [Except.map]
    | ok d => simp [Except.map, hn]
  · simp [hn]

/-- Every entry of a plan is accepted. -/
theorem validate_of_mem_plan {p : Spec} (h : p ∈ c.plan) : c.validate p = .ok () := by
  obtain ⟨-, hn, hp⟩ := mem_plan_iff.mp h
  obtain ⟨d, -, hd⟩ := resolve_of_mem_specsOf hp
  exact validate_eq_ok_iff.mpr ⟨hn, d, hd⟩

/-! ## The order of a plan -/

/-- The place of a spec: the position of its shape, that of its number type among those of the shape, and its
dimension. -/
def place (c : Catalogue) (p : Spec) : Nat ×ₗ Nat ×ₗ Nat :=
  toLex (p.shape.position, toLex ((c.config.typesFor p.shape).idxOf p.numeric, p.resolve.toOption.getD 0))

/-- Places are compared by shape, then by number type, then by dimension. -/
theorem place_lt_place_iff {p q : Spec} :
    c.place p < c.place q ↔
      p.shape.position < q.shape.position ∨ p.shape.position = q.shape.position ∧
        ((c.config.typesFor p.shape).idxOf p.numeric < (c.config.typesFor q.shape).idxOf q.numeric ∨
          (c.config.typesFor p.shape).idxOf p.numeric = (c.config.typesFor q.shape).idxOf q.numeric ∧
            p.resolve.toOption.getD 0 < q.resolve.toOption.getD 0) := by
  simp only [place, Prod.Lex.toLex_lt_toLex]

/-- Without repeats the entries of a list stand in the order of their positions. -/
theorem pairwise_idxOf {α : Type} [DecidableEq α] {list : List α} (h : list.Nodup) :
    list.Pairwise fun a b => list.idxOf a < list.idxOf b := by
  rw [List.pairwise_iff_getElem]
  intro i j hi hj hij
  rwa [h.idxOf_getElem i hi, h.idxOf_getElem j hj]

/-- The specs of a shape for a number type stand in the order of their dimensions. -/
theorem pairwise_specsOf (c : Catalogue) (s : Shape) (n : Numeric) :
    (specsOf s n).Pairwise fun p q => c.place p < c.place q := by
  have hmap : (specsOf s n).map (fun p => p.resolve.toOption.getD 0) = s.plannedDimensions := by
    have h := congrArg (List.map fun r => r.toOption.getD 0) (map_resolve_specsOf s n)
    rw [List.map_map, List.map_map] at h
    simpa [Function.comp_def, Except.toOption] using h
  have hdimensions : (specsOf s n).Pairwise fun p q => p.resolve.toOption.getD 0 < q.resolve.toOption.getD 0 := by
    rw [← List.pairwise_map (R := (· < ·)), hmap]
    exact s.plannedDimensions_increasing
  refine hdimensions.imp_of_mem fun {p q} hp hq hlt => ?_
  obtain ⟨hps, hpn⟩ := eq_of_mem_specsOf hp
  obtain ⟨hqs, hqn⟩ := eq_of_mem_specsOf hq
  rw [place_lt_place_iff, hps, hpn, hqs, hqn]
  exact Or.inr ⟨rfl, Or.inr ⟨rfl, hlt⟩⟩

/-- A plan stands in the order of the places. -/
theorem pairwise_plan (c : Catalogue) : c.plan.Pairwise fun p q => c.place p < c.place q := by
  have hshapes : Shape.all.Pairwise fun s t => s.position < t.position := pairwise_idxOf (by decide)
  rw [plan, List.pairwise_flatMap]
  refine ⟨fun s _ => ?_, (hshapes.filter _).imp ?_⟩
  · rw [List.pairwise_flatMap]
    refine ⟨fun n _ => pairwise_specsOf c s n, (pairwise_idxOf (Config.nodup_typesFor c.valid s)).imp ?_⟩
    intro n m hnm p hp q hq
    obtain ⟨hps, hpn⟩ := eq_of_mem_specsOf hp
    obtain ⟨hqs, hqn⟩ := eq_of_mem_specsOf hq
    rw [place_lt_place_iff, hps, hpn, hqs, hqn]
    exact Or.inr ⟨rfl, Or.inl hnm⟩
  · intro s t hst p hp q hq
    obtain ⟨n, -, hp⟩ := List.mem_flatMap.mp hp
    obtain ⟨m, -, hq⟩ := List.mem_flatMap.mp hq
    rw [place_lt_place_iff, (eq_of_mem_specsOf hp).1, (eq_of_mem_specsOf hq).1]
    exact Or.inl hst

/-- No place of a plan is taken twice. -/
theorem nodup_map_place (c : Catalogue) : (c.plan.map c.place).Nodup :=
  List.pairwise_map.mpr ((pairwise_plan c).imp ne_of_lt)

/-- Entries of one shape, number type and dimension are one entry. -/
theorem eq_of_mem_plan {p q : Spec} (hp : p ∈ c.plan) (hq : q ∈ c.plan) (hshape : p.shape = q.shape)
    (hnumeric : p.numeric = q.numeric) (hresolve : p.resolve = q.resolve) : p = q := by
  apply List.inj_on_of_nodup_map (nodup_map_place c) hp hq
  rw [place, place, hshape, hnumeric, hresolve]

/-- A spec with a template that is accepted has an entry. -/
theorem exists_mem_plan {spec : Spec} (htemplate : c.hasTemplate spec.shape = true) (h : c.validate spec = .ok ()) :
    ∃ p ∈ c.plan, p.shape = spec.shape ∧ p.numeric = spec.numeric ∧ p.resolve = spec.resolve := by
  obtain ⟨hn, d, hd⟩ := validate_eq_ok_iff.mp h
  obtain ⟨p, hp, hresolve⟩ := exists_mem_specsOf (Spec.mem_plannedDimensions hd) spec.numeric
  obtain ⟨hshape, hnumeric⟩ := eq_of_mem_specsOf hp
  refine ⟨p, mem_plan_iff.mpr ?_, hshape, hnumeric, hresolve.trans hd.symm⟩
  rw [hshape, hnumeric]
  exact ⟨htemplate, hn, hp⟩

/-- A plan is sound, complete, without repeats and in order:
1. Every entry has a template and is accepted.
2. A spec that has a template and is accepted has exactly one entry of its shape, number type and dimension, however it
   writes the dimension.
3. The entries stand in the order of their places. -/
theorem plan_exact (c : Catalogue) :
    (∀ p ∈ c.plan, c.hasTemplate p.shape = true ∧ c.validate p = .ok ()) ∧
      (∀ spec : Spec, c.hasTemplate spec.shape = true → c.validate spec = .ok () →
        ∃ p, (c.plan.filter fun q =>
          q.shape = spec.shape ∧ q.numeric = spec.numeric ∧ q.resolve = spec.resolve) = [p]) ∧
      c.plan.Pairwise fun p q => c.place p < c.place q := by
  refine ⟨fun p hp => ⟨(mem_plan_iff.mp hp).1, validate_of_mem_plan hp⟩, ?_, pairwise_plan c⟩
  intro spec htemplate h
  obtain ⟨p, hp, hshape, hnumeric, hresolve⟩ := exists_mem_plan htemplate h
  have hnodup : c.plan.Nodup := (nodup_map_place c).of_map
  refine ⟨p, List.perm_singleton.mp ((List.perm_ext_iff_of_nodup (hnodup.filter _) (List.nodup_singleton p)).mpr ?_)⟩
  intro q
  rw [List.mem_filter, decide_eq_true_iff, List.mem_singleton]
  constructor
  · rintro ⟨hq, hqshape, hqnumeric, hqresolve⟩
    exact eq_of_mem_plan hq hp (hqshape.trans hshape.symm) (hqnumeric.trans hnumeric.symm)
      (hqresolve.trans hresolve.symm)
  · rintro rfl
    exact ⟨hp, hshape, hnumeric, hresolve⟩

/-- The plan of a catalogue with templates for two shapes: an entry of a line is accepted, and a ray whose dimension is
written out has the entry without one. -/
theorem plan_exact_ray :
    let config : Config := { generalTypes := [.uint, .double], realTypes := [.double] }
    ∃ bare c, Catalogue.empty config = .ok bare ∧ c = (bare.register .ray .ray).register .line .ellipse ∧
      (⟨.line, .uint, some 1⟩ : Spec) ∈ c.plan ∧ c.validate ⟨.line, .uint, some 1⟩ = .ok () ∧
      c.hasTemplate .ray = true ∧ c.validate ⟨.ray, .double, some 3⟩ = .ok () ∧
      ∃ p, (c.plan.filter fun q =>
        q.shape = .ray ∧ q.numeric = .double ∧ q.resolve = (⟨.ray, .double, some 3⟩ : Spec).resolve) = [p] := by
  refine ⟨_, _, rfl, rfl, by decide, (plan_exact _).1 _ (by decide) |>.2, rfl, rfl, ?_⟩
  exact (plan_exact _).2.1 ⟨.ray, .double, some 3⟩ rfl rfl

end Catalogue

end GeometrySource
