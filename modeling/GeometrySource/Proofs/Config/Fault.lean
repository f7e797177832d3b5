import GeometrySource.Proofs.Config.Validation

/-!
# The first fault

What can be wrong with a configuration, each fault by itself and without regard to the others, and which fault counts before
which. A configuration is refused exactly if something is wrong with it, and then with the first of its faults: of a list
that repeats itself the first place counts at which it does, and of the real types the first that is not floating.
-/

namespace GeometrySource

/-! ## First places -/

/-- Whether `n` stands at the first place of a list at which something is wrong. What is wrong may depend on the place. -/
def FirstAt (list : List Numeric) (wrong : Nat → Numeric → Prop) (n : Numeric) : Prop :=
  ∃ i, list[i]? = some n ∧ wrong i n ∧ ∀ j m, j < i → list[j]? = some m → ¬wrong j m

theorem not_firstAt_nil (wrong : Nat → Numeric → Prop) (n : Numeric) : ¬FirstAt [] wrong n := by
  rintro ⟨i, hi, -⟩
  simp at hi

/-- Either the head is wrong, or the first place is one of the rest. -/
theorem firstAt_cons_iff {head n : Numeric} {rest : List Numeric} {wrong : Nat → Numeric → Prop} :
    FirstAt (head :: rest) wrong n ↔
      (wrong 0 head ∧ n = head) ∨ (¬wrong 0 head ∧ FirstAt rest (fun i => wrong (i + 1)) n) := by
  constructor
  · rintro ⟨i, hi, hwrong, hbefore⟩
    cases i with
    | zero =>
      obtain rfl : head = n := by simpa using hi
      exact Or.inl ⟨hwrong, rfl⟩
    | succ i =>
      refine Or.inr ⟨hbefore 0 head i.succ_pos rfl, i, hi, hwrong, fun j m hj hm => ?_⟩
      exact hbefore (j + 1) m (Nat.succ_lt_succ hj) hm
  · rintro (⟨hwrong, rfl⟩ | ⟨hright, i, hi, hwrong, hbefore⟩)
    · exact ⟨0, rfl, hwrong, fun j m hj => absurd hj j.not_lt_zero⟩
    · refine ⟨i + 1, hi, hwrong, fun j m hj hm => ?_⟩
      cases j with
      | zero =>
        obtain rfl : head = m := by simpa using hm
        exact hright
      | succ j => exact hbefore j m (Nat.lt_of_succ_lt_succ hj) hm

/-- A search finds the number type at the first place where the predicate holds. -/
theorem find?_eq_some_iff_firstAt {p : Numeric → Bool} {list : List Numeric} {n : Numeric} :
    list.find? p = some n ↔ FirstAt list (fun _ m => p m = true) n := by
  induction list with
  | nil => simp [not_firstAt_nil]
  | cons head rest ih =>
    rw [firstAt_cons_iff, List.find?_cons, ← ih]
    cases hp : p head with
    | true => simp [eq_comm]
    | false => simp

namespace Config

/-- A repeat is found at the first place whose number type was seen or stands at an earlier place. -/
theorem firstRepeat?_eq_some_iff {seen list : List Numeric} {n : Numeric} :
    firstRepeat? seen list = some n ↔ FirstAt list (fun i m => m ∈ seen ∨ m ∈ list.take i) n := by
  induction list generalizing seen with
  | nil => simp [firstRepeat?, not_firstAt_nil]
  | cons head rest ih =>
    -- One place further on, what has been seen is what was seen before and the head.
    have hshift : (fun i m => m ∈ seen ∨ m ∈ (head :: rest).take (i + 1)) =
        fun (i : Nat) (m : Numeric) => m ∈ head :: seen ∨ m ∈ rest.take i := by
      funext i m
      rw [List.take_succ_cons, List.mem_cons, List.mem_cons, or_left_comm, or_assoc]
    rw [firstAt_cons_iff, hshift, ← ih, firstRepeat?]
    by_cases hseen : head ∈ seen
    · simp [hseen, eq_comm]
    · simp [hseen]

end Config

/-! ## Faults and their order -/

namespace ConfigFault

/-- The place of a fault in the order in which faults count. -/
def place : ConfigFault → Nat
  | blankNamespace => 0
  | emptyList .general => 1
  | repeated .general _ => 2
  | emptyList .real => 3
  | repeated .real _ => 4
  | notFloating _ => 5

/-- All faults. -/
def all : List ConfigFault :=
  blankNamespace :: ([TypeList.general, .real].flatMap fun list => emptyList list :: Numeric.all.map (repeated list)) ++
    Numeric.all.map notFloating

theorem mem_all (fault : ConfigFault) : fault ∈ all := by
  cases fault with
  | blankNamespace => decide
  | emptyList list => cases list <;> decide
  | repeated list n => cases list <;> cases n <;> decide
  | notFloating n => cases n <;> decide

theorem place_lt (fault : ConfigFault) : fault.place < 6 := by
  have hall : ∀ fault ∈ all, fault.place < 6 := by decide
  exact hall fault fault.mem_all

/-- The wording tells which fault it is, in which list and of which number type. -/
theorem message_injective : Function.Injective message := by
  have hnodup : (all.map message).Nodup := by decide
  exact fun fault other h => List.inj_on_of_nodup_map hnodup fault.mem_all other.mem_all h

end ConfigFault

namespace Config

/-- Whether a configuration has a fault, whatever else is wrong with it. A number type is repeated if it stands at the first
place whose number type also stands at an earlier one. -/
def HasFault (c : Config) : ConfigFault → Prop
  | .blankNamespace => ∀ ch ∈ c.namespaceName.toList, Text.isBlank ch = true
  | .emptyList list => c.types list = []
  | .repeated list n => FirstAt (c.types list) (fun i m => m ∈ (c.types list).take i) n
  | .notFloating n => FirstAt c.realTypes (fun _ m => m.isFloating = false) n

/-- The fault of an empty list. -/
def emptyFault? (c : Config) (list : TypeList) : Option ConfigFault :=
  if (c.types list).isEmpty then some (.emptyList list) else none

/-- The fault of a list that names a number type again. -/
def repeatFault? (c : Config) (list : TypeList) : Option ConfigFault :=
  (firstRepeat? [] (c.types list)).map (.repeated list)

/-- The fault of a configuration at a place of the order, if it has one there. -/
def faultAt? (c : Config) : Nat → Option ConfigFault
  | 0 => if Text.allBlank c.namespaceName then some .blankNamespace else none
  | 1 => c.emptyFault? .general
  | 2 => c.repeatFault? .general
  | 3 => c.emptyFault? .real
  | 4 => c.repeatFault? .real
  | 5 => (c.realTypes.find? fun n => !n.isFloating).map .notFloating
  | _ => none

variable {c : Config} {fault other : ConfigFault} {list : TypeList}

theorem allBlank_iff : Text.allBlank c.namespaceName = true ↔ c.HasFault .blankNamespace := by
  simp [Text.allBlank, HasFault]

theorem emptyFault?_eq_some_iff : c.emptyFault? list = some fault ↔ c.HasFault fault ∧ fault = .emptyList list := by
  unfold emptyFault?
  rw [Option.ite_none_right_eq_some, List.isEmpty_iff, Option.some.injEq]
  constructor <;> rintro ⟨hempty, rfl⟩ <;> exact ⟨hempty, rfl⟩

theorem repeatFault?_eq_some_iff :
    c.repeatFault? list = some fault ↔ c.HasFault fault ∧ ∃ n, fault = .repeated list n := by
  have hrepeat : ∀ n, firstRepeat? [] (c.types list) = some n ↔ c.HasFault (.repeated list n) := fun n => by
    simp [firstRepeat?_eq_some_iff, HasFault]
  rw [repeatFault?, Option.map_eq_some_iff]
  constructor
  · rintro ⟨n, hn, rfl⟩
    exact ⟨(hrepeat n).mp hn, n, rfl⟩
  · rintro ⟨hfault, n, rfl⟩
    exact ⟨n, (hrepeat n).mpr hfault, rfl⟩

theorem find?_not_isFloating_iff {n : Numeric} :
    (c.realTypes.find? fun n => !n.isFloating) = some n ↔ c.HasFault (.notFloating n) := by
  simp [find?_eq_some_iff_firstAt, HasFault]

/-- What is found at a place of the order is a fault that has this place. -/
theorem hasFault_of_faultAt? {place : Nat} (h : c.faultAt? place = some fault) :
    c.HasFault fault ∧ fault.place = place := by
  match place, h with
  | 0, h =>
    obtain ⟨hblank, hfault⟩ := Option.ite_none_right_eq_some.mp h
    cases hfault
    exact ⟨allBlank_iff.mp hblank, rfl⟩
  | 1, h | 3, h =>
    obtain ⟨hfault, rfl⟩ := emptyFault?_eq_some_iff.mp h
    exact ⟨hfault, rfl⟩
  | 2, h | 4, h =>
    obtain ⟨hfault, n, rfl⟩ := repeatFault?_eq_some_iff.mp h
    exact ⟨hfault, rfl⟩
  | 5, h =>
    obtain ⟨n, hn, rfl⟩ := Option.map_eq_some_iff.mp h
    exact ⟨find?_not_isFloating_iff.mp hn, rfl⟩

/-- A fault is found at its place, whatever else is wrong. -/
theorem HasFault.faultAt?_place (h : c.HasFault fault) : c.faultAt? fault.place = some fault := by
  cases fault with
  | blankNamespace => exact Option.ite_none_right_eq_some.mpr ⟨allBlank_iff.mpr h, rfl⟩
  | emptyList list => cases list <;> exact emptyFault?_eq_some_iff.mpr ⟨h, rfl⟩
  | repeated list n => cases list <;> exact repeatFault?_eq_some_iff.mpr ⟨h, n, rfl⟩
  | notFloating n => exact Option.map_eq_some_iff.mpr ⟨n, find?_not_isFloating_iff.mpr h, rfl⟩

/-- A configuration has one fault at most at each place of the order. -/
theorem HasFault.eq_of_place_eq (h : c.HasFault fault) (hother : c.HasFault other) (hplace : fault.place = other.place) :
    fault = other := by
  have hfound := h.faultAt?_place
  rw [hplace, hother.faultAt?_place] at hfound
  exact (Option.some.inj hfound).symm

/-- The fault of a list alone is that it is empty, or else that it repeats itself. -/
theorem listFault?_eq (c : Config) (list : TypeList) :
    c.listFault? list = (c.emptyFault? list).or (c.repeatFault? list) := by
  unfold listFault? emptyFault? repeatFault?
  split <;> rfl

/-- The faults are looked for in their order. -/
theorem fault?_eq_findSome? (c : Config) : c.fault? = (List.range 6).findSome? c.faultAt? := by
  have hcons : ∀ place places, List.findSome? c.faultAt? (place :: places) =
      (c.faultAt? place).or (places.findSome? c.faultAt?) := fun place places => by
    rw [List.findSome?_cons]
    cases c.faultAt? place <;> rfl
  have hrange : List.range 6 = [0, 1, 2, 3, 4, 5] := rfl
  simp only [hrange, hcons, List.findSome?_nil, Option.or_none, faultAt?, fault?, listFault?_eq, Option.or_assoc]
  split <;> rfl

/-- The fault found has no other before it. -/
theorem place_le_of_fault?_eq_some (h : c.fault? = some fault) (hother : c.HasFault other) :
    fault.place ≤ other.place := by
  rw [fault?_eq_findSome?, List.findSome?_eq_some_iff] at h
  obtain ⟨before, place, after, hrange, hfault, hbefore⟩ := h
  obtain ⟨-, rfl⟩ := hasFault_of_faultAt? hfault
  -- The places rise, so another fault stands in front, where nothing was found, or not before this one.
  have hsorted : (List.range 6).Pairwise (· < ·) := List.pairwise_lt_range
  have hmem : other.place ∈ List.range 6 := List.mem_range.mpr other.place_lt
  rw [hrange] at hsorted hmem
  obtain ⟨-, hafter, -⟩ := List.pairwise_append.mp hsorted
  rcases List.mem_append.mp hmem with hmem | hmem
  · have hnone := hbefore _ hmem
    rw [hother.faultAt?_place] at hnone
    cases hnone
  · rcases List.mem_cons.mp hmem with heq | hmem
    · exact Nat.le_of_eq heq.symm
    · exact Nat.le_of_lt ((List.pairwise_cons.mp hafter).1 _ hmem)

theorem hasFault_of_fault?_eq_some (h : c.fault? = some fault) : c.HasFault fault := by
  rw [fault?_eq_findSome?] at h
  obtain ⟨place, -, hfound⟩ := List.exists_of_findSome?_eq_some h
  exact (hasFault_of_faultAt? hfound).1

/-- A fault is found if there is one. -/
theorem HasFault.exists_fault? (h : c.HasFault fault) : ∃ first, c.fault? = some first := by
  rw [← Option.isSome_iff_exists, fault?_eq_findSome?, List.findSome?_isSome_iff]
  exact ⟨fault.place, List.mem_range.mpr fault.place_lt, by rw [h.faultAt?_place, Option.isSome_some]⟩

/-- The fault found is the one that no other fault of the configuration counts before. -/
theorem fault?_eq_some_iff :
    c.fault? = some fault ↔ c.HasFault fault ∧ ∀ other, c.HasFault other → fault.place ≤ other.place := by
  constructor
  · intro h
    exact ⟨hasFault_of_fault?_eq_some h, fun other hother => place_le_of_fault?_eq_some h hother⟩
  · rintro ⟨hfault, hleast⟩
    obtain ⟨first, hfirst⟩ := hfault.exists_fault?
    have hplace : fault.place = first.place :=
      Nat.le_antisymm (hleast first (hasFault_of_fault?_eq_some hfirst)) (place_le_of_fault?_eq_some hfirst hfault)
    rw [hfirst, hfault.eq_of_place_eq (hasFault_of_fault?_eq_some hfirst) hplace]

theorem validate_eq_error_iff {e : Error} :
    c.validate = .error e ↔ ∃ fault, c.fault? = some fault ∧ e = .invalidConfig fault := by
  unfold validate
  cases c.fault? with
  | none => simp
  | some fault => simp [eq_comm]

/-- What a configuration is accepted and refused for:
1. It is accepted exactly if its namespace has a character that is not white space, both lists of number types are not
   empty and have no repeat, and all real types are floating.
2. It is refused exactly with the fault that comes first among all that it has: the namespace before the general types and
   these before the real ones, of a list that it is empty before that it repeats a number type, and last a real type that
   is not floating. The number type of a repeat is the one at the first place whose number type stands at an earlier place
   too, and a number type that is not floating is the first one of its list.
3. No two faults have the same wording. -/
theorem validate_exact (c : Config) :
    (c.validate = .ok () ↔
        (∃ ch ∈ c.namespaceName.toList, Text.isBlank ch = false) ∧
          (c.generalTypes ≠ [] ∧ c.generalTypes.Nodup) ∧ (c.realTypes ≠ [] ∧ c.realTypes.Nodup) ∧
            ∀ n ∈ c.realTypes, n.isFloating = true) ∧
      (∀ e, c.validate = .error e ↔
        ∃ fault, e = .invalidConfig fault ∧ c.HasFault fault ∧ ∀ other, c.HasFault other → fault.place ≤ other.place) ∧
      Function.Injective ConfigFault.message := by
  refine ⟨?_, fun e => ?_, ConfigFault.message_injective⟩
  · have hvisible : Text.allBlank c.namespaceName = false ↔ ∃ ch ∈ c.namespaceName.toList, Text.isBlank ch = false := by
      simp [Text.allBlank]
    rw [validate_eq_ok_iff, hvisible]
  · rw [validate_eq_error_iff]
    simp only [fault?_eq_some_iff, and_comm]

/-- A configuration with three faults, of which the one of the general types counts: there the second byte stands in front
of the second int. -/
theorem validate_exact_repeat :
    let c : Config := { namespaceName := " x", generalTypes := [.int, .byte, .byte, .int], realTypes := [.int, .int] }
    (c.HasFault (.repeated .general .byte) ∧ c.HasFault (.repeated .real .int) ∧ c.HasFault (.notFloating .int)) ∧
      c.validate = .error (.invalidConfig (.repeated .general .byte)) ∧
      ∀ other, c.HasFault other → 2 ≤ other.place := by
  intro c
  obtain ⟨-, hrefused, -⟩ := validate_exact c
  have hvalidate : c.validate = .error (.invalidConfig (.repeated .general .byte)) := by
    show Config.validate ⟨" x", _, _, _, _⟩ = _
    decide
  obtain ⟨fault, hfault, hhas, hleast⟩ := (hrefused _).mp hvalidate
  cases hfault
  have hreal : c.repeatFault? .real = some (.repeated .real .int) := rfl
  exact ⟨⟨hhas, (repeatFault?_eq_some_iff.mp hreal).1, find?_not_isFloating_iff.mp rfl⟩, hvalidate, hleast⟩

end Config

end GeometrySource
