import GeometrySource.Json.Field
import GeometrySource.Proofs.Json.Node
import Mathlib.Data.List.Forall2
import Mathlib.Data.List.Nodup

/-!
# Reading records

What the members of an object say, and what is read from them: the members come with their names, a field that a record
knows is read from the only member of that name, and members of other names do not matter. What is written as a record is
spelled by its text. All this is about the documented behaviour of the library that JSON is left to.
-/

namespace GeometrySource.Json

namespace Node

/-! ## Names -/

/-- Whether members have the names and the values of a list, in its order. -/
def Named (members : List (Quoted × Node)) (named : List (String × Node)) : Prop :=
  List.Forall₂ (fun member entry => member.1.Says entry.1.toList ∧ member.2 = entry.2) members named

/-- The values under a name, in order. -/
def valuesOf (named : List (String × Node)) (name : String) : List Node :=
  (named.filter fun entry => entry.1 = name).map Prod.snd

theorem namedMembers?_eq_some_iff {members : List (Quoted × Node)} {named : List (String × Node)} :
    namedMembers? members = some named ↔ Named members named := by
  unfold namedMembers? Named
  induction members generalizing named with
  | nil => simp
  | cons member members ih =>
    simp only [List.mapM_cons, Option.pure_def, Option.bind_eq_bind, Option.bind_eq_some_iff, Option.map_eq_some_iff,
      Option.some.injEq, Quoted.decode?_eq_some_iff, List.forall₂_cons_left_iff, ← ih]
    constructor
    · rintro ⟨entry, ⟨name, hname, rfl⟩, more, hmore, rfl⟩
      exact ⟨_, more, ⟨hname, rfl⟩, hmore, rfl⟩
    · rintro ⟨entry, more, ⟨hname, hvalue⟩, hmore, rfl⟩
      exact ⟨entry, ⟨entry.1, hname, by rw [hvalue]⟩, more, hmore, rfl⟩

theorem length_valuesOf (named : List (String × Node)) (name : String) :
    (valuesOf named name).length = (named.map Prod.fst).count name := by
  rw [valuesOf, List.length_map, ← List.countP_eq_length_filter, List.count, List.countP_map]
  rfl

/-! ## The known members of an object -/

variable {names : List String} {named : List (String × Node)} {name : String}

/-- The members that a record knows. -/
def known (names : List String) (named : List (String × Node)) : List (String × Node) :=
  named.filter fun entry => names.contains entry.1

theorem valuesOf_known (hname : name ∈ names) : valuesOf (known names named) name = valuesOf named name := by
  rw [valuesOf, known, List.filter_filter]
  refine congrArg (List.map Prod.snd) (List.filter_congr fun entry _ => ?_)
  by_cases h : entry.1 = name
  · simp [h, hname]
  · simp [h]

theorem lookup_eq_head?_valuesOf (named : List (String × Node)) (name : String) :
    named.lookup name = (valuesOf named name).head? := by
  induction named with
  | nil => rfl
  | cons entry named ih =>
    obtain ⟨other, value⟩ := entry
    by_cases h : other = name
    · simp [valuesOf, h]
    · simpa [valuesOf, h, Ne.symm h, List.lookup_cons, beq_eq_false_iff_ne.mpr (Ne.symm h)] using ih

/-- The fields of an object are its known members, of which no two may have one name. -/
theorem fields?_object_eq_some_iff {members : List (Quoted × Node)} (h : Named members named)
    {fields : List (String × Node)} :
    fields? names (object members) = some fields ↔
      (∀ name ∈ names, (valuesOf named name).length ≤ 1) ∧ fields = known names named := by
  have hnodup : ((known names named).map Prod.fst).Nodup ↔ ∀ name ∈ names, (valuesOf named name).length ≤ 1 := by
    rw [List.nodup_iff_count_le_one]
    constructor
    · intro hcount name hname
      rw [← valuesOf_known hname, length_valuesOf]
      exact hcount name
    · intro hvalues name
      by_cases hname : name ∈ names
      · rw [← length_valuesOf, valuesOf_known hname]
        exact hvalues name hname
      · refine (List.count_eq_zero_of_not_mem fun hmem => hname ?_).trans_le (Nat.zero_le 1)
        obtain ⟨entry, hentry, rfl⟩ := List.mem_map.mp hmem
        simpa using (List.mem_filter.mp hentry).2
  rw [← hnodup, eq_comm (a := fields)]
  simp only [fields?, namedMembers?_eq_some_iff.mpr h, Option.bind_eq_bind, Option.bind_some, known,
    Option.ite_none_right_eq_some, Option.some.injEq]

/-- A field is read from the only member of its name; if there is none, what stands for a missing field is taken. -/
theorem field?_eq_some_iff {α : Type} (hname : name ∈ names) (hvalues : (valuesOf named name).length ≤ 1)
    {missing : Option α} {read? : Node → Option α} {a : α} :
    field? (known names named) name missing read? = some a ↔
      (valuesOf named name = [] ∧ missing = some a) ∨ ∃ node, valuesOf named name = [node] ∧ read? node = some a := by
  rw [field?, lookup_eq_head?_valuesOf, valuesOf_known hname]
  match valuesOf named name, hvalues with
  | [], _ => simp
  | [node], _ => simp

/-- A field that may not be missing is read from the only member of its name. -/
theorem field?_required_iff {α : Type} (hname : name ∈ names) (hvalues : (valuesOf named name).length ≤ 1)
    {read? : Node → Option α} {a : α} :
    field? (known names named) name none read? = some a ↔ ∃ node, valuesOf named name = [node] ∧ read? node = some a := by
  simp [field?_eq_some_iff hname hvalues]

/-! ## Values -/

/-- The ways to choose a name: as a string, or as an object with the name as its only key and the value null. -/
inductive Chooses : Node → String → Prop
  | string {items : Quoted} {name : String} (h : items.Says name.toList) : Chooses (.string items) name
  | object {key : Quoted} {name : String} (h : key.Says name.toList) : Chooses (.object [(key, .null)]) name

/-- A value is read exactly if its name is chosen. -/
theorem choice?_eq_some_iff {α : Type} {ofName? : String → Option α} {nameOf : α → String}
    (hname : ∀ {name : String} {a : α}, ofName? name = some a ↔ nameOf a = name) {node : Node} {a : α} :
    choice? ofName? node = some a ↔ node.Chooses (nameOf a) := by
  constructor
  · intro h
    unfold choice? at h
    split at h
    · obtain ⟨name, hsays, ha⟩ := Option.bind_eq_some_iff.mp h
      obtain rfl := hname.mp ha
      exact .string (Quoted.decode?_eq_some_iff.mp hsays)
    · obtain ⟨name, hsays, ha⟩ := Option.bind_eq_some_iff.mp h
      obtain rfl := hname.mp ha
      exact .object (Quoted.decode?_eq_some_iff.mp hsays)
    · cases h
  · intro h
    cases h with
    | string h => rw [choice?, Quoted.decode?_eq_some_iff.mpr h, Option.bind_some, hname.mpr rfl]
    | object h => rw [choice?, Quoted.decode?_eq_some_iff.mpr h, Option.bind_some, hname.mpr rfl]

theorem chooses_ofString (name : String) : (ofString name).Chooses name :=
  .string (Quoted.says_encode name)

theorem text?_ofString (text : String) : (ofString text).text? = some text :=
  Quoted.decode?_eq_some_iff.mpr (Quoted.says_encode text)

/-- A list is read back if its items are. -/
theorem list?_array_map {α : Type} {read? : Node → Option α} {write : α → Node} (h : ∀ a, read? (write a) = some a)
    (items : List α) : list? read? (array (items.map write)) = some items := by
  rw [list?, List.mapM_map]
  induction items with
  | nil => rfl
  | cons item items ih => simp [h, ih]

/-- A number is read exactly if its literal stands for it. -/
theorem uint32?_number_eq_some_iff {literal : Number} {n : UInt32} :
    (number literal).uint32? = some n ↔ literal.toNat? = some n.toNat := by
  rw [uint32?, Option.bind_eq_some_iff]
  constructor
  · rintro ⟨value, hvalue, h⟩
    obtain ⟨hlt, hn⟩ := Option.ite_none_right_eq_some.mp h
    rw [hvalue, ← Option.some.inj hn, UInt32.toNat_ofNat_of_lt' hlt]
  · intro h
    exact ⟨n.toNat, h, by rw [if_pos n.toNat_lt_size, UInt32.ofNat_toNat]⟩

/-! ## What is written -/

theorem written_ofString (text : String) : (ofString text).Written :=
  written_string (Quoted.spelled_encode text)

/-- A record whose values are written is written. -/
theorem written_ofFields {fields : List (String × Node)} (h : ∀ field ∈ fields, field.2.Written) :
    (ofFields fields).Written := by
  refine written_object fun member hmember => ?_
  obtain ⟨field, hfield, rfl⟩ := List.mem_map.mp hmember
  exact ⟨Quoted.spelled_encode field.1, h field hfield⟩

/-- The members of a record that is written have the names and values of its fields. -/
theorem named_ofFields (fields : List (String × Node)) :
    Named (fields.map fun (name, value) => (Quoted.encode name, value)) fields := by
  rw [Named, List.forall₂_map_left_iff, List.forall₂_same]
  exact fun field _ => ⟨Quoted.says_encode field.1, rfl⟩

end Node

end GeometrySource.Json
