import GeometrySource.Text.Lowercase
import GeometrySource.Proofs.Text.Token

/-!
# Lower case once and for all

The table of lower-case forms is checked run by run: the forms of a run are characters of words, and none of them
belongs to a run again. So the lower-case form of a character of a word is made of characters of words, and a lower-case
form is its own lower-case form.
-/

namespace GeometrySource.Text

/-- The characters from a to z are letters. -/
theorem isAlphanum_of_small {c : Char} (hlow : 0x61 ≤ c.toNat) (hhigh : c.toNat ≤ 0x7A) : c.isAlphanum = true := by
  have hlower : c.isLower = true := by
    change (decide ('a'.val ≤ c.val) && decide (c.val ≤ 'z'.val)) = true
    simp only [Bool.and_eq_true, decide_eq_true_eq, UInt32.le_iff_toNat_le]
    exact ⟨hlow, hhigh⟩
  change (c.isUpper || c.isLower || c.isDigit) = true
  simp [hlower]

namespace CaseRun

/-- The number of the first form of a run. -/
def formFirst (r : CaseRun) : Nat :=
  (r.first + r.shift).toNat

/-- The number of the last form of a run. -/
def formLast (r : CaseRun) : Nat :=
  (r.last + r.shift).toNat

/-- Whether the characters of a run are all even or all odd. -/
def alternates (r : CaseRun) : Bool :=
  r.step == 2 || r.first == r.last

/-- Whether the forms of a run can be seen to stay clear of another run: they lie beside it, or between its
characters. -/
def clearOf (r other : CaseRun) : Bool :=
  r.formLast.blt other.first || other.last.blt r.formFirst ||
    (r.alternates && other.alternates && !(r.formFirst % 2 == other.first % 2))

/-- Whether the forms of a run can be seen to be characters of words: they are small letters of ASCII, or they lie
outside of it where there are characters. -/
def staysInWords (r : CaseRun) : Bool :=
  (Nat.ble 0x61 r.formFirst && r.formLast.ble 0x7A) ||
    (Nat.ble 128 r.formFirst && (r.formLast.blt 0xD800 || (Nat.blt 0xDFFF r.formFirst && r.formLast.blt 0x110000)))

theorem covers_iff (r : CaseRun) (code : Nat) :
    r.covers code = true ↔ r.first ≤ code ∧ code ≤ r.last ∧ (code - r.first) % r.step = 0 := by
  simp [covers, and_assoc]

/-- In a run that alternates, every character is as even as the first. -/
theorem parity {r : CaseRun} {code : Nat} (h : r.covers code = true) (ha : r.alternates = true) :
    code % 2 = r.first % 2 := by
  obtain ⟨hfirst, hlast, hstep⟩ := (r.covers_iff code).mp h
  simp only [alternates, Bool.or_eq_true, beq_iff_eq] at ha
  rcases ha with htwo | hsingle
  · rw [htwo] at hstep
    omega
  · omega

/-- A form lies as far behind the first form as its character behind the first character. -/
theorem form_sub_formFirst {r : CaseRun} (hwords : r.staysInWords = true) {code : Nat} (h : r.covers code = true) :
    (code + r.shift).toNat + r.first = r.formFirst + code ∧ (code + r.shift).toNat ≤ r.formLast := by
  obtain ⟨hfirst, hlast, -⟩ := (r.covers_iff code).mp h
  have hpositive : 0 < r.formFirst := by
    simp only [staysInWords, Bool.or_eq_true, Bool.and_eq_true, Nat.ble_eq] at hwords
    omega
  unfold formFirst formLast at *
  omega

/-- A form that stays clear of a run does not belong to it. -/
theorem not_covers_of_clearOf {r other : CaseRun} (h : r.clearOf other = true) (hwords : r.staysInWords = true)
    {code : Nat} (hcode : r.covers code = true) : other.covers (code + r.shift).toNat = false := by
  by_contra hcovers
  rw [Bool.not_eq_false] at hcovers
  obtain ⟨hform, hformLast⟩ := form_sub_formFirst hwords hcode
  obtain ⟨hfirst, hlast, -⟩ := (r.covers_iff code).mp hcode
  obtain ⟨hfirst', hlast', -⟩ := (other.covers_iff _).mp hcovers
  simp only [clearOf, Bool.or_eq_true, Bool.and_eq_true, Nat.blt_eq, Bool.not_eq_true', beq_eq_false_iff_ne] at h
  rcases h with (hbelow | habove) | ⟨⟨ha, ha'⟩, hodd⟩
  · omega
  · omega
  · have hparity := parity hcode ha
    have hparity' := parity hcovers ha'
    omega

/-- The form of a character of a run is a character with the number that the run gives. -/
theorem toNat_form {r : CaseRun} (hwords : r.staysInWords = true) {code : Nat} (h : r.covers code = true) :
    (Char.ofNat (code + r.shift).toNat).toNat = (code + r.shift).toNat := by
  obtain ⟨hform, hformLast⟩ := form_sub_formFirst hwords h
  obtain ⟨hfirst, -, -⟩ := (r.covers_iff code).mp h
  simp only [staysInWords, Bool.or_eq_true, Bool.and_eq_true, Nat.ble_eq, Nat.blt_eq] at hwords
  have hvalid : (code + r.shift).toNat.isValidChar := by
    unfold Nat.isValidChar
    omega
  rw [Char.ofNat, dif_pos hvalid]
  rfl

/-- The form of a character of a run is a character of words. -/
theorem isWordChar_form {r : CaseRun} (hwords : r.staysInWords = true) {code : Nat} (h : r.covers code = true) :
    isWordChar (Char.ofNat (code + r.shift).toNat) = true := by
  have hnumber := toNat_form hwords h
  obtain ⟨hform, hformLast⟩ := form_sub_formFirst hwords h
  obtain ⟨hfirst, -, -⟩ := (r.covers_iff code).mp h
  simp only [staysInWords, Bool.or_eq_true, Bool.and_eq_true, Nat.ble_eq] at hwords
  simp only [isWordChar, Bool.or_eq_true, decide_eq_true_eq, hnumber]
  rcases hwords with ⟨hlow, hhigh⟩ | ⟨hlow, -⟩
  · exact .inl (.inl (isAlphanum_of_small (by omega) (by omega)))
  · right
    omega

end CaseRun

/-- The capital I with a dot above, as a run of its own. -/
def dottedRun : CaseRun :=
  ⟨0x0130, 0x0130, 1, 0⟩

/-- The forms of every run are characters of words. -/
theorem staysInWords_of_mem : ∀ r ∈ caseRuns, r.staysInWords = true := by
  decide +kernel

/-- The forms of every run stay clear of all runs and of the dotted capital I. -/
theorem clearOf_of_mem : ∀ r ∈ caseRuns, ((dottedRun :: caseRuns).all fun other => r.clearOf other) = true := by
  decide +kernel

/-- The lower-case form of a character is two characters, or a run's form, or the character itself. -/
theorem lowercase_cases (c : Char) :
    (c = '\u0130' ∧ lowercase c = ['i', '\u0307']) ∨
      (∃ r ∈ caseRuns, r.covers c.toNat = true ∧ lowercase c = [Char.ofNat (c.toNat + r.shift).toNat]) ∨
      (c ≠ '\u0130' ∧ (∀ r ∈ caseRuns, r.covers c.toNat = false) ∧ lowercase c = [c]) := by
  unfold lowercase
  by_cases hdot : c = '\u0130'
  · exact .inl ⟨hdot, if_pos hdot⟩
  · rw [if_neg hdot]
    cases hfind : caseRuns.find? fun r => r.covers c.toNat with
    | some r => exact .inr (.inl ⟨r, List.mem_of_find?_eq_some hfind, by simpa using List.find?_some hfind, rfl⟩)
    | none =>
      refine .inr (.inr ⟨hdot, ?_, rfl⟩)
      intro r hr
      simpa using List.find?_eq_none.mp hfind r hr

/-- A character that belongs to no run and is not the dotted capital I is its own lower-case form. -/
theorem lowercase_of_not_covers {c : Char} (hdot : c ≠ '\u0130') (h : ∀ r ∈ caseRuns, r.covers c.toNat = false) :
    lowercase c = [c] := by
  have hfind : (caseRuns.find? fun r => r.covers c.toNat) = none := by
    rw [List.find?_eq_none]
    intro r hr
    simp [h r hr]
  rw [lowercase, if_neg hdot, hfind]

/-- The lower-case form of a character of a word is made of characters of words. -/
theorem isWordChar_of_mem_lowercase {c d : Char} (hc : isWordChar c = true) (hd : d ∈ lowercase c) :
    isWordChar d = true := by
  rcases lowercase_cases c with ⟨-, h⟩ | ⟨r, hr, hcovers, h⟩ | ⟨-, -, h⟩
  · have hboth : ['i', '\u0307'].all isWordChar = true := by decide
    exact List.all_eq_true.mp hboth d (h ▸ hd)
  · rw [h, List.mem_singleton] at hd
    rw [hd]
    exact CaseRun.isWordChar_form (staysInWords_of_mem r hr) hcovers
  · rw [h, List.mem_singleton] at hd
    rwa [hd]

/-- The first character of a lower-case form is its own lower-case form. -/
theorem lowercase_of_head?_lowercase {c d : Char} (hd : (lowercase c).head? = some d) : lowercase d = [d] := by
  rcases lowercase_cases c with ⟨-, h⟩ | ⟨r, hr, hcovers, h⟩ | ⟨hdot, hnot, h⟩
  · rw [h, List.head?_cons, Option.some.injEq] at hd
    rw [← hd]
    decide +kernel
  · rw [h, List.head?_cons, Option.some.injEq] at hd
    have hwords := staysInWords_of_mem r hr
    have hclear := List.all_eq_true.mp (clearOf_of_mem r hr)
    have hnumber : d.toNat = (c.toNat + r.shift).toNat := by rw [← hd, CaseRun.toNat_form hwords hcovers]
    refine lowercase_of_not_covers ?_ ?_
    · rintro rfl
      have hdotted := CaseRun.not_covers_of_clearOf (hclear dottedRun List.mem_cons_self) hwords hcovers
      rw [← hnumber] at hdotted
      exact absurd hdotted (by decide)
    · intro other hother
      rw [hnumber]
      exact CaseRun.not_covers_of_clearOf (hclear other (List.mem_cons_of_mem _ hother)) hwords hcovers
  · rw [h, List.head?_cons, Option.some.injEq] at hd
    rw [← hd, h]

end GeometrySource.Text
