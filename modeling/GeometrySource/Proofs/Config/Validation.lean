import GeometrySource.Config.Basic
import Mathlib.Data.List.Nodup

/-!
# What a valid configuration has

A configuration is valid exactly if its namespace is not blank, neither list of number types is empty or names a type
twice, and all real types are floating. The lists of shapes are then without gaps and repeats too.
-/

namespace GeometrySource.Config

/-- No repeat is found exactly if the list has none, and none of it was seen before. -/
theorem firstRepeat?_eq_none_iff (seen list : List Numeric) :
    firstRepeat? seen list = none ↔ list.Nodup ∧ ∀ n ∈ list, n ∉ seen := by
  induction list generalizing seen with
  | nil => simp [firstRepeat?]
  | cons n rest ih =>
    rw [firstRepeat?]
    by_cases hseen : n ∈ seen
    · simp [hseen]
    · have hcontains : seen.contains n = false := by simpa using hseen
      rw [hcontains, if_neg (by simp), ih, List.nodup_cons]
      constructor
      · rintro ⟨hrest, hnew⟩
        refine ⟨⟨fun hmem => hnew n hmem List.mem_cons_self, hrest⟩, List.forall_mem_cons.mpr ⟨hseen, ?_⟩⟩
        exact fun m hm hmem => hnew m hm (List.mem_cons_of_mem _ hmem)
      · rintro ⟨⟨hn, hrest⟩, hnew⟩
        refine ⟨hrest, fun m hm => ?_⟩
        rw [List.mem_cons, not_or]
        exact ⟨fun heq => hn (heq ▸ hm), hnew m (List.mem_cons_of_mem _ hm)⟩

/-- A list of number types has no fault exactly if it is not empty and has no repeat. -/
theorem listFault?_eq_none_iff (c : Config) (list : TypeList) :
    c.listFault? list = none ↔ c.types list ≠ [] ∧ (c.types list).Nodup := by
  rw [listFault?]
  cases h : c.types list with
  | nil => simp
  | cons n rest =>
    rw [List.isEmpty_cons, if_neg Bool.false_ne_true, Option.map_eq_none_iff, firstRepeat?_eq_none_iff]
    simp

/-- A configuration is accepted exactly if its namespace has a visible character, its lists are not empty and have no
repeat, and its real types are floating. -/
theorem validate_eq_ok_iff (c : Config) :
    c.validate = .ok () ↔
      Text.allBlank c.namespaceName = false ∧ (c.generalTypes ≠ [] ∧ c.generalTypes.Nodup) ∧
        (c.realTypes ≠ [] ∧ c.realTypes.Nodup) ∧ ∀ n ∈ c.realTypes, n.isFloating = true := by
  have hfault : c.validate = .ok () ↔ c.fault? = none := by
    unfold validate
    cases c.fault? <;> simp
  rw [hfault, fault?]
  cases hblank : Text.allBlank c.namespaceName with
  | true => simp
  | false =>
    rw [if_neg Bool.false_ne_true, Option.or_eq_none_iff, Option.or_eq_none_iff, listFault?_eq_none_iff,
      listFault?_eq_none_iff, Option.map_eq_none_iff, List.find?_eq_none]
    simp [types]

variable {c : Config} (h : c.validate = .ok ())

include h

/-- Every shape has a number type to be generated for. -/
theorem typesFor_ne_nil (s : Shape) : c.typesFor s ≠ [] := by
  obtain ⟨-, hgeneral, hreal, -⟩ := (validate_eq_ok_iff c).mp h
  unfold typesFor
  split
  · exact hreal.1
  · exact hgeneral.1

/-- No shape is generated twice for a number type. -/
theorem nodup_typesFor (s : Shape) : (c.typesFor s).Nodup := by
  obtain ⟨-, hgeneral, hreal, -⟩ := (validate_eq_ok_iff c).mp h
  unfold typesFor
  split
  · exact hreal.2
  · exact hgeneral.2

end GeometrySource.Config
