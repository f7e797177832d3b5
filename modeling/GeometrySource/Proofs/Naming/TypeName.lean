import GeometrySource.Proofs.Naming.Word
import GeometrySource.Proofs.Text.Edge

/-!
# Type names tell types apart

A type name begins with three letters that no other family begins with, its digits are followed by letters only, and no
two number types have the same suffix. So a name can be read back: types with one name are of one family, of one number
type, and of one dimension if the family shows it.
-/

namespace GeometrySource

open Text

/-- The suffix tells number types apart. -/
theorem Numeric.suffix_injective {n m : Numeric} (h : n.suffix = m.suffix) : n = m := by
  have hall : ∀ n ∈ Numeric.all, ∀ m ∈ Numeric.all, n.suffix = m.suffix → n = m := by decide
  exact hall n n.mem_all m m.mem_all h

/-- The types of one family and dimension have different names. -/
theorem numeric_eq_of_typeName_eq {family : TypeFamily} {n m : Numeric} {dimension : Nat}
    (h : typeName family n dimension = typeName family m dimension) : n = m := by
  unfold typeName at h
  split at h
  · exact Numeric.suffix_injective (String.append_right_inj _ |>.mp h)
  · exact Numeric.suffix_injective (String.append_right_inj _ |>.mp h)

/-! ## Families -/

namespace TypeFamily

/-- All families. -/
def all : List TypeFamily :=
  Shape.all.map shape ++ [point, vector, size]

theorem mem_all (f : TypeFamily) : f ∈ all := by
  cases f with
  | shape s => exact List.mem_append_left _ (List.mem_map_of_mem s.mem_all)
  | point => decide
  | vector => decide
  | size => decide

/-- The letters that the names of a family begin with. -/
def start (f : TypeFamily) : List Char :=
  f.base.toList.take 3

/-- The first letters tell families apart. -/
theorem start_injective {f g : TypeFamily} (h : f.start = g.start) : f = g := by
  have hall : ∀ f ∈ all, ∀ g ∈ all, f.start = g.start → f = g := by decide
  exact hall f f.mem_all g g.mem_all h

theorem three_le_length_base (f : TypeFamily) : 3 ≤ f.base.toList.length := by
  have hall : ∀ f ∈ all, 3 ≤ f.base.toList.length := by decide
  exact hall f f.mem_all

end TypeFamily

/-- What the names of a family have in front of the suffix. -/
theorem typeName_eq (f : TypeFamily) (n : Numeric) (dimension : Nat) :
    typeName f n dimension = f.base ++ ((if f.carriesDimension then dimension.repr else "") ++ n.suffix) := by
  unfold typeName
  split
  · rw [String.append_assoc]
  · rw [String.empty_append]

/-- A type name begins with the letters of its family. -/
theorem take_typeName (f : TypeFamily) (n : Numeric) (dimension : Nat) :
    (typeName f n dimension).toList.take 3 = f.start := by
  rw [typeName_eq, String.toList_append, List.take_append_of_le_length f.three_le_length_base]
  rfl

/-- Types of one name are of one family. -/
theorem family_eq_of_typeName_eq {f g : TypeFamily} {n m : Numeric} {d e : Nat}
    (h : typeName f n d = typeName g m e) : f = g := by
  apply TypeFamily.start_injective
  rw [← take_typeName f n d, h, take_typeName]

/-! ## Dimensions -/

/-- A suffix does not go on with the digits in front of it. -/
theorem Numeric.begins_suffix (n : Numeric) : Begins (fun c => !c.isDigit) n.suffix := by
  cases n <;> decide

/-- Types of one name are of one family, of one number type, and of one dimension if the family shows it. -/
theorem eq_of_typeName_eq {f g : TypeFamily} {n m : Numeric} {d e : Nat} (h : typeName f n d = typeName g m e) :
    f = g ∧ n = m ∧ (f.carriesDimension = true → d = e) := by
  obtain rfl := family_eq_of_typeName_eq h
  refine ⟨rfl, ?_⟩
  have hrest := (String.append_right_inj _).mp ((typeName_eq f n d).symm.trans (h.trans (typeName_eq f m e)))
  by_cases hcarries : f.carriesDimension = true
  · rw [if_pos hcarries, if_pos hcarries] at hrest
    obtain ⟨hrepr, hsuffix⟩ := append_inj_of_begins (fun c => isDigit_of_mem_repr) (fun c => isDigit_of_mem_repr)
      n.begins_suffix m.begins_suffix hrest
    exact ⟨Numeric.suffix_injective hsuffix, fun _ => repr_injective hrepr⟩
  · rw [if_neg hcarries, if_neg hcarries, String.empty_append, String.empty_append] at hrest
    exact ⟨Numeric.suffix_injective hrest, fun hc => absurd hc hcarries⟩

/-- A dimension that is not shown makes no difference to a name. -/
theorem typeName_congr {f : TypeFamily} (h : f.carriesDimension = false) (n : Numeric) (d e : Nat) :
    typeName f n d = typeName f n e := by
  rw [typeName_eq, typeName_eq, h]
  rfl

/-- Names agree exactly if the family and the number type agree and, where the family shows it, the dimension: no two types
share a name. -/
theorem typeName_eq_iff {f g : TypeFamily} {n m : Numeric} {d e : Nat} :
    typeName f n d = typeName g m e ↔ f = g ∧ n = m ∧ (f.carriesDimension = true → d = e) := by
  refine ⟨eq_of_typeName_eq, ?_⟩
  rintro ⟨rfl, rfl, hdimension⟩
  cases hcarries : f.carriesDimension with
  | true => rw [hdimension hcarries]
  | false => exact typeName_congr hcarries n d e

/-! ## Names of shape types -/

/-- Whether a text is the name of a shape's type. -/
def IsShapeTypeName (text : String) : Prop :=
  ∃ s n d, text = typeName (.shape s) n d

/-- The letters that the types of shapes begin with, written out. -/
def shapeStarts : List (List Char) :=
  [['C', 'i', 'r'], ['E', 'l', 'l'], ['L', 'i', 'n'], ['P', 'l', 'a'], ['P', 'o', 'l'], ['R', 'a', 'y'], ['R', 'e', 'c'],
    ['S', 'p', 'h']]

theorem start_mem_shapeStarts (s : Shape) : (TypeFamily.shape s).start ∈ shapeStarts := by
  cases s <;> decide

/-- Whether a text begins with the letters of a shape. -/
def beginsLikeShape (text : String) : Bool :=
  shapeStarts.contains (text.toList.take 3)

theorem IsShapeTypeName.beginsLikeShape {text : String} (h : IsShapeTypeName text) : beginsLikeShape text = true := by
  obtain ⟨s, n, d, rfl⟩ := h
  rw [GeometrySource.beginsLikeShape, take_typeName, List.contains_iff_mem]
  exact start_mem_shapeStarts s

/-- The types of other families are not called like a shape's. -/
theorem not_isShapeTypeName_typeName {f : TypeFamily} (h : ∀ s, f ≠ .shape s) (n : Numeric) (d : Nat) :
    ¬IsShapeTypeName (typeName f n d) := by
  rintro ⟨s, m, e, heq⟩
  exact h s (family_eq_of_typeName_eq heq)

/-- No number type is called like a shape's type. -/
theorem not_isShapeTypeName_keyword (n : Numeric) : ¬IsShapeTypeName n.keyword := by
  have hall : ∀ n ∈ Numeric.all, beginsLikeShape n.keyword = false := by decide
  exact fun h => Bool.false_ne_true ((hall n n.mem_all).symm.trans h.beginsLikeShape)

/-- The name of a shape's type begins with a capital letter. -/
theorem IsShapeTypeName.head {text : String} (h : IsShapeTypeName text) :
    ∃ c rest, text.toList = c :: rest ∧ c ∈ ['C', 'E', 'L', 'P', 'R', 'S'] := by
  obtain ⟨s, n, d, rfl⟩ := h
  have hstart : (TypeFamily.shape s).start.head?.any (['C', 'E', 'L', 'P', 'R', 'S'].contains ·) = true := by
    cases s <;> decide
  obtain ⟨c, hhead, hcontains⟩ := (Option.any_eq_true _ _).mp hstart
  have hc : c ∈ ['C', 'E', 'L', 'P', 'R', 'S'] := List.contains_iff_mem.mp hcontains
  have htaken := congrArg List.head? (take_typeName (.shape s) n d)
  rw [List.head?_take, if_neg (by decide), hhead] at htaken
  obtain ⟨rest, hlist⟩ := List.head?_eq_some_iff.mp htaken
  exact ⟨c, rest, hlist, hc⟩

/-- No parameter spelling is called like a shape's type. -/
theorem not_isShapeTypeName_parameterName (name : String) : ¬IsShapeTypeName (parameterName name) := by
  intro h
  obtain ⟨c, rest, hlist, hc⟩ := h.head
  have hall : (['C', 'E', 'L', 'P', 'R', 'S'].all fun c => (lowercase c).head? ≠ some c) = true := by decide
  have hmoved : (lowercase c).head? ≠ some c := by simpa using List.all_eq_true.mp hall c hc
  have hagain := parameterName_parameterName name
  rw [← String.toList_inj, parameterName, hlist, String.toList_ofList] at hagain
  obtain ⟨d, more, hlower⟩ := List.exists_cons_of_ne_nil (lowercase_ne_nil c)
  rw [hlower, List.cons_append] at hagain
  exact hmoved (by rw [hlower, List.head?_cons, (List.cons.inj hagain).1])

end GeometrySource
