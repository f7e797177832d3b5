import Mathlib.Data.List.Basic

/-!
# How texts begin and end

What kind of character a text begins or ends with. Of a text in parts only the first part, or the last, makes a
difference, so these properties are decided by what is written down at the ends of a line.
-/

namespace GeometrySource.Text

/-- Whether a text begins with such a character. -/
def Begins (p : Char → Bool) (text : String) : Prop :=
  text.toList.head?.any p = true

/-- Whether a text ends with such a character. -/
def Ends (p : Char → Bool) (text : String) : Prop :=
  text.toList.getLast?.any p = true

instance (p : Char → Bool) (text : String) : Decidable (Begins p text) :=
  inferInstanceAs (Decidable (_ = true))

instance (p : Char → Bool) (text : String) : Decidable (Ends p text) :=
  inferInstanceAs (Decidable (_ = true))

variable {p : Char → Bool}

@[simp]
theorem begins_append {first second : String} :
    Begins p (first ++ second) ↔ Begins p first ∨ first = "" ∧ Begins p second := by
  rw [Begins, Begins, Begins, String.toList_append, List.head?_append, ← String.toList_eq_nil_iff]
  cases first.toList <;> simp

@[simp]
theorem ends_append {first second : String} :
    Ends p (first ++ second) ↔ Ends p second ∨ second = "" ∧ Ends p first := by
  rw [Ends, Ends, Ends, String.toList_append, List.getLast?_append, ← String.toList_eq_nil_iff]
  cases h : second.toList.getLast? with
  | none =>
    rw [List.getLast?_eq_none_iff] at h
    simp [h]
  | some c =>
    have hne : second.toList ≠ [] := by
      intro hnil
      simp [hnil] at h
    simp [hne]

theorem begins_iff {text : String} : Begins p text ↔ ∃ c rest, text.toList = c :: rest ∧ p c = true := by
  unfold Begins
  cases text.toList <;> simp

theorem ends_iff {text : String} : Ends p text ↔ ∃ c ∈ text.toList.getLast?, p c = true :=
  Option.any_eq_true _ _

/-! ## Where one part ends -/

/-- Characters of one kind end where a character of another kind stands. -/
theorem takeWhile_append_of_begins {first rest : String} (hfirst : ∀ c ∈ first.toList, p c = true)
    (hrest : Begins (fun c => !p c) rest) : (first ++ rest).toList.takeWhile p = first.toList := by
  obtain ⟨c, more, hlist, hc⟩ := begins_iff.mp hrest
  have hp : ¬p c = true := by simpa using hc
  rw [String.toList_append, List.takeWhile_append_of_pos hfirst, hlist, List.takeWhile_cons_of_neg hp, List.append_nil]

/-- Characters of one kind in front of a character of another kind can be told from what follows. -/
theorem append_inj_of_begins {first second rest more : String} (hfirst : ∀ c ∈ first.toList, p c = true)
    (hsecond : ∀ c ∈ second.toList, p c = true) (hrest : Begins (fun c => !p c) rest)
    (hmore : Begins (fun c => !p c) more) (h : first ++ rest = second ++ more) : first = second ∧ rest = more := by
  have hsame : first = second := by
    rw [← String.toList_inj, ← takeWhile_append_of_begins hfirst hrest, h, takeWhile_append_of_begins hsecond hmore]
  rw [hsame, String.append_right_inj] at h
  exact ⟨hsame, h⟩

end GeometrySource.Text
